import Mathlib.Data.Nat.Cast.Order.Basic
import PlatformOperator.Time

/-! Times and their texts: a dated time reads back as the whole second it is in, and no other time reads at all. -/

namespace PlatformOperator

namespace Calendar

/-- A day by the era of 400 years it is in, the century, the group of four years and the year in that, and the day
    of the year. Only the last year of a group has a day more, and the last group of a century only in the last one. -/
structure Parts where
  era : Int
  century : Int
  group : Int
  year : Int
  day : Int
  century_bounds : 0 ≤ century ∧ century ≤ 3
  group_bounds : 0 ≤ group ∧ group ≤ 24
  year_bounds : 0 ≤ year ∧ year ≤ 3
  day_bounds : 0 ≤ day ∧ day ≤ 365
  leap : day = 365 → year = 3 ∧ (group = 24 → century = 3)

namespace Parts

/-- The day as a number, from 1970-01-01 on. -/
def days (p : Parts) : Int :=
  p.era * 146097 + 36524 * p.century + 1461 * p.group + 365 * p.year + p.day - 719468

/-- The number of the day within the era. -/
def ofEra (p : Parts) : Int := 36524 * p.century + 1461 * p.group + 365 * p.year + p.day

/-- The year, which begins in March. -/
def yearOfEra (p : Parts) : Int := 100 * p.century + 4 * p.group + p.year

/-- The month of the year, from March on. -/
def month (p : Parts) : Int := (5 * p.day + 2) / 153

theorem exists_days (days : Int) : ∃ p : Parts, p.days = days := by
  let ofEra := (days + 719468) % 146097
  let century := min (ofEra / 36524) 3
  let ofCentury := ofEra - 36524 * century
  let group := ofCentury / 1461
  let ofGroup := ofCentury - 1461 * group
  let year := min (ofGroup / 365) 3
  refine ⟨⟨(days + 719468) / 146097, century, group, year, ofGroup - 365 * year, ?_, ?_, ?_, ?_, ?_⟩, ?_⟩
  all_goals simp only [Parts.days, century, group, year, ofGroup, ofCentury, ofEra]
  all_goals omega

theorem month_bounds (p : Parts) : 0 ≤ p.month ∧ p.month ≤ 11 := by
  have := p.day_bounds
  unfold month
  omega

theorem yearOfEra_bounds (p : Parts) : 0 ≤ p.yearOfEra ∧ p.yearOfEra ≤ 399 := by
  have := p.century_bounds
  have := p.group_bounds
  have := p.year_bounds
  unfold yearOfEra
  omega

/-- The first day of the year within the era. -/
theorem yearOfEra_start (p : Parts) : 365 * p.yearOfEra + p.yearOfEra / 4 - p.yearOfEra / 100 =
    36524 * p.century + 1461 * p.group + 365 * p.year := by
  have := p.century_bounds
  have := p.group_bounds
  have := p.year_bounds
  have hgroups : p.yearOfEra / 4 = 25 * p.century + p.group := by
    unfold yearOfEra
    omega
  have hcenturies : p.yearOfEra / 100 = p.century := by
    unfold yearOfEra
    omega
  rw [hgroups, hcenturies]
  unfold yearOfEra
  omega

theorem ofEra_years (p : Parts) :
    (p.ofEra - p.ofEra / 1460 + p.ofEra / 36524 - p.ofEra / 146096) / 365 = p.yearOfEra := by
  obtain ⟨era, c, g, y, d, hc, hg, hy, hd, hleap⟩ := p
  simp only [ofEra, yearOfEra]
  have hcenturies : (36524 * c + 1461 * g + 365 * y + d) / 36524 -
      (36524 * c + 1461 * g + 365 * y + d) / 146096 = c := by
    by_cases hlast : 1461 * g + 365 * y + d < 36524
    · have hnone : (36524 * c + 1461 * g + 365 * y + d) / 146096 = 0 := by omega
      omega
    · omega
  have hgroups : (36524 * c + 1461 * g + 365 * y + d) / 1460 = 25 * c + g + (24 * c + g + 365 * y + d) / 1460 := by
    omega
  -- The quotient is one too large on the last days of a group only.
  have hlast : (24 * c + g + 365 * y + d) / 1460 = 0 ∨
      (24 * c + g + 365 * y + d) / 1460 = 1 ∧ y = 3 ∧ 1 ≤ d := by
    omega
  rw [hgroups, Int.add_sub_assoc, hcenturies]
  omega

/-- The date of a day, in years that begin in January. -/
theorem dateOf_days (p : Parts) : dateOf p.days =
    (p.yearOfEra + p.era * 400 + (if p.month < 10 then 0 else 1), if p.month < 10 then p.month + 3 else p.month - 9,
      p.day - (153 * p.month + 2) / 5 + 1) := by
  have hc := p.century_bounds
  have hg := p.group_bounds
  have hy := p.year_bounds
  have hd := p.day_bounds
  have hm := p.month_bounds
  have hera : (p.days + 719468) / 146097 = p.era := by
    have := p.leap
    unfold days
    omega
  have hofEra : p.days + 719468 - p.era * 146097 = p.ofEra := by
    unfold days ofEra
    omega
  have hday : p.ofEra - (36524 * p.century + 1461 * p.group + 365 * p.year) = p.day := by
    unfold ofEra
    omega
  have fdiv {a b : Int} (hb : 0 ≤ b) : Int.fdiv a b = a / b := Int.fdiv_eq_ediv_of_nonneg a hb
  simp (disch := decide) only [dateOf, fdiv, hera, hofEra, p.ofEra_years, p.yearOfEra_start, hday]
  rw [← month]
  by_cases h : p.month < 10
  · have hmonth : ¬p.month + 3 ≤ 2 := by omega
    simp only [h, hmonth, if_true, if_false]
  · have hmonth : p.month - 9 ≤ 2 := by omega
    simp only [h, hmonth, if_true, if_false]

/-- A date lies in its month. -/
theorem dateOf_inMonth (p : Parts) (hyear : 0 ≤ (dateOf p.days).1) :
    (1 ≤ (dateOf p.days).2.1 ∧ (dateOf p.days).2.1 ≤ 12) ∧ 1 ≤ (dateOf p.days).2.2 ∧
      (dateOf p.days).2.2 ≤ daysInMonth (dateOf p.days).1.toNat (dateOf p.days).2.1.toNat := by
  rw [dateOf_days] at hyear ⊢
  dsimp only at hyear ⊢
  have hd := p.day_bounds
  obtain ⟨hlow, hhigh⟩ := p.month_bounds
  have hday : 153 * p.month ≤ 5 * p.day + 2 ∧ 5 * p.day + 2 < 153 * p.month + 153 := by
    unfold month
    omega
  have hleap : p.day = 365 → isLeap (p.yearOfEra + p.era * 400 + 1).toNat = true := by
    intro hlast
    obtain ⟨hthird, hcentury⟩ := p.leap hlast
    have hc := p.century_bounds
    have hg := p.group_bounds
    have hmonth : ¬p.month < 10 := by
      unfold month
      omega
    rw [if_neg hmonth] at hyear
    unfold isLeap
    unfold yearOfEra at hyear ⊢
    simp only [Bool.and_eq_true, Bool.or_eq_true, beq_iff_eq, bne_iff_ne]
    omega
  generalize p.month = m at *
  generalize p.day = d at *
  generalize p.yearOfEra + p.era * 400 = y at *
  -- The length of February alone depends on the year.
  by_cases hfebruary : m = 11
  · subst hfebruary
    cases hl : isLeap (y + 1).toNat with
    | true =>
      simp [daysInMonth, hl]
      omega
    | false =>
      have hne : d ≠ 365 := fun h => by simp [hleap h] at hl
      simp [daysInMonth, hl]
      omega
  · have hmonths : m = 0 ∨ m = 1 ∨ m = 2 ∨ m = 3 ∨ m = 4 ∨ m = 5 ∨ m = 6 ∨ m = 7 ∨ m = 8 ∨ m = 9 ∨
        m = 10 := by
      omega
    rcases hmonths with rfl | rfl | rfl | rfl | rfl | rfl | rfl | rfl | rfl | rfl | rfl <;>
      · simp [daysInMonth]
        omega

theorem daysOf_dateOf (p : Parts) : daysOf (dateOf p.days).1 (dateOf p.days).2.1 (dateOf p.days).2.2 = p.days := by
  have hm := p.month_bounds
  have hy := p.yearOfEra_bounds
  have hstart := p.yearOfEra_start
  have fdiv {a b : Int} (hb : 0 ≤ b) : Int.fdiv a b = a / b := Int.fdiv_eq_ediv_of_nonneg a hb
  rw [dateOf_days]
  simp (disch := decide) only [daysOf, fdiv]
  unfold days
  by_cases h : p.month < 10
  · have hmonth : ¬p.month + 3 ≤ 2 ∧ p.month + 3 > 2 := by omega
    simp only [h, hmonth, if_true, if_false]
    omega
  · have hmonth : p.month - 9 ≤ 2 ∧ ¬p.month - 9 > 2 := by omega
    simp only [h, hmonth, if_true, if_false]
    omega

end Parts

end Calendar

namespace Timestamp
variable {t u : Timestamp} {width n : Nat} {ds cs cs' rest : List Char}

/-! ### Digits -/

/-- A number in at least `width` digits. -/
def digits (width n : Nat) : List Char :=
  List.replicate (width - (Nat.toDigits 10 n).length) '0' ++ Nat.toDigits 10 n

theorem toList_padded (width n : Nat) : (padded width n).toList = digits width n := by
  have hneg : ¬(n : Int) < 0 := by omega
  simp [padded, digits, hneg, Nat.toString_eq_repr, ← Nat.toList_repr, String.length_toList]

theorem digits_isDigit : ∀ c ∈ digits width n, c.isDigit = true := by
  intro c hc
  rcases List.mem_append.mp hc with hc | hc
  · rw [(List.mem_replicate.mp hc).2]
    rfl
  · exact Nat.isDigit_of_mem_toDigits (by decide) (by decide) hc

theorem length_digits (hw : 0 < width) (hn : n < 10 ^ width) : (digits width n).length = width := by
  have := (Nat.length_toDigits_le_iff (by decide) hw).mpr hn
  rw [digits, List.length_append, List.length_replicate]
  omega

theorem ofDigitChars_digits (width n : Nat) : Nat.ofDigitChars 10 (digits width n) 0 = n := by
  have hzeros (k : Nat) : Nat.ofDigitChars 10 (List.replicate k '0') 0 = 0 := by
    induction k with
    | zero => rfl
    | succ k ih =>
      rw [List.replicate_succ, Nat.ofDigitChars_cons]
      exact ih
  rw [digits, Nat.ofDigitChars_append, hzeros, Nat.ofDigitChars_ten_toDigits]

theorem digits?_append (hds : ∀ c ∈ ds, c.isDigit = true) (cs : List Char) :
    digits? ds.length (ds ++ cs) = some (Nat.ofDigitChars 10 ds 0, cs) := by
  have hvalue : ds.foldl (fun acc c => acc * 10 + (c.toNat - '0'.toNat)) 0 = Nat.ofDigitChars 10 ds 0 := by
    simp only [Nat.ofDigitChars, Nat.mul_comm]
  unfold digits?
  dsimp only
  rw [List.take_left, List.drop_left, hvalue, if_pos ⟨rfl, List.all_eq_true.mpr hds⟩]

theorem digits?_digits (width n : Nat) (hw : 0 < width) (hn : n < 10 ^ width) (cs : List Char) :
    digits? width (digits width n ++ cs) = some (n, cs) := by
  have h := digits?_append (digits_isDigit : ∀ c ∈ digits width n, c.isDigit = true) cs
  rwa [length_digits hw hn, ofDigitChars_digits] at h

theorem digits?_eq_some (h : digits? width cs = some (n, cs')) :
    (∀ c ∈ cs.take width, c.isDigit = true) ∧ cs' = cs.drop width := by
  unfold digits? at h
  dsimp only at h
  split at h
  · rename_i hds
    cases h
    exact ⟨List.all_eq_true.mp hds.2, rfl⟩
  · cases h

/-! ### Reading a text -/

theorem date?_digits (year month day : Nat) (hyear : year < 10000) (hmonth : 1 ≤ month ∧ month ≤ 12)
    (hday : 1 ≤ day ∧ day ≤ Calendar.daysInMonth year month) (cs : List Char) :
    date? (digits 4 year ++ '-' :: (digits 2 month ++ '-' :: (digits 2 day ++ cs))) =
      some ((year, month, day), cs) := by
  have hdays : Calendar.daysInMonth year month ≤ 31 := by
    unfold Calendar.daysInMonth
    split_ifs <;> decide
  have hy := digits?_digits 4 year (by decide) hyear ('-' :: (digits 2 month ++ '-' :: (digits 2 day ++ cs)))
  have hm := digits?_digits 2 month (by decide) (by omega) ('-' :: (digits 2 day ++ cs))
  have hd := digits?_digits 2 day (by decide) (by omega) cs
  simp [date?, skip?, hy, hm, hd, hmonth, hday]

theorem timeOfDay?_digits (hour minute second : Nat) (hhour : hour ≤ 23) (hminute : minute ≤ 59)
    (hsecond : second ≤ 59) :
    timeOfDay? (digits 2 hour ++ ':' :: (digits 2 minute ++ ':' :: (digits 2 second ++ ['Z']))) =
      some ((hour * 3600 + minute * 60 + second, 0), ['Z']) := by
  have hh := digits?_digits 2 hour (by decide) (by omega)
    (':' :: (digits 2 minute ++ ':' :: (digits 2 second ++ ['Z'])))
  have hm := digits?_digits 2 minute (by decide) (by omega) (':' :: (digits 2 second ++ ['Z']))
  have hs := digits?_digits 2 second (by decide) (by omega) ['Z']
  have hle : second ≤ 60 := by omega
  simp [timeOfDay?, skip?, fraction?, hh, hm, hs, hhour, hminute, hle, hsecond]

/-- Behind more than four digits of a year nothing reads as the mark of a time. -/
theorem date?_long {x : Nat × Nat × Nat} (hds : ∀ c ∈ ds, c.isDigit = true) (hlong : 4 < ds.length)
    (h : date? (ds ++ '-' :: rest) = some (x, cs)) : ∃ c ∈ cs.head?, c.isDigit = true ∨ c = '-' := by
  obtain ⟨a, b, c, d, e, tail, rfl⟩ : ∃ a b c d e tail, ds = a :: b :: c :: d :: e :: tail := by
    match ds, hlong with
    | a :: b :: c :: d :: e :: tail, _ => exact ⟨a, b, c, d, e, tail, rfl⟩
  have he : e.isDigit = true := hds e (by simp)
  have hne : e ≠ '-' := by
    rintro rfl
    revert he
    decide
  simp only [date?, bind, Option.bind_eq_some_iff] at h
  obtain ⟨⟨year, cs₁⟩, hyear, h⟩ := h
  obtain ⟨-, rfl⟩ := digits?_eq_some hyear
  -- A fifth digit is no dash, so the month and the day have to follow at once, in two digits each.
  simp only [List.cons_append, List.drop_succ_cons, List.drop_zero, List.head?_cons, Option.some.injEq, hne, if_false,
    Option.bind_eq_some_iff] at h
  obtain ⟨_, rfl, ⟨month, cs₂⟩, hmonth, _, rfl, ⟨day, cs₃⟩, hday, h⟩ := h
  obtain ⟨hmonthDigits, rfl⟩ := digits?_eq_some hmonth
  obtain ⟨hdayDigits, rfl⟩ := digits?_eq_some hday
  have hdash : '-'.isDigit ≠ true := by decide
  have hcs : cs = (e :: (tail ++ '-' :: rest)).drop 4 := by
    split at h
    · cases h
      rw [List.drop_drop]
    · cases h
  subst hcs
  match tail with
  | [] => exact absurd (hmonthDigits '-' (by simp)) hdash
  | [f] => exact absurd (hdayDigits '-' (by simp)) hdash
  | [f, g] => exact absurd (hdayDigits '-' (by simp)) hdash
  | [f, g, i] => exact ⟨'-', rfl, .inr rfl⟩
  | f :: g :: i :: j :: tail => exact ⟨j, rfl, .inl (hds j (by simp))⟩

/-! ### Texts -/

/-- The date in UTC. -/
def date (t : Timestamp) : Int × Int × Int := Calendar.dateOf (Int.fdiv t.seconds 86400)

theorem year_iff : 0 ≤ t.date.1 ∧ t.date.1 < 10000 ↔ -62167219200 ≤ t.seconds ∧ t.seconds < 253402300800 := by
  obtain ⟨p, hp⟩ := Calendar.Parts.exists_days (Int.fdiv t.seconds 86400)
  rw [date, ← hp, p.dateOf_days]
  rw [Int.fdiv_eq_ediv_of_nonneg _ (by decide)] at hp
  have hdays : -62167219200 ≤ t.seconds ∧ t.seconds < 253402300800 ↔ -719528 ≤ p.days ∧ p.days < 2932897 := by
    omega
  rw [hdays]
  obtain ⟨era, c, g, y, d, hc, hg, hy, hd, hleap⟩ := p
  simp only [Calendar.Parts.days, Calendar.Parts.yearOfEra, Calendar.Parts.month]
  -- The years 0 and 10000 begin in January, two months before the end of an era.
  have hera : era < -1 ∨ era = -1 ∨ 0 ≤ era ∧ era < 24 ∨ era = 24 ∨ 24 < era := by omega
  have hlast : 36524 * c + 1461 * g + 365 * y + d < 146037 ↔
      100 * c + 4 * g + y < 399 ∨ (5 * d + 2) / 153 < 10 := by
    omega
  by_cases h : (5 * d + 2) / 153 < 10
  · simp only [h, if_true]
    rcases hera with h | rfl | h | rfl | h <;> omega
  · simp only [h, if_false]
    rcases hera with h | rfl | h | rfl | h <;> omega

/-- The time of day in seconds. -/
def secondOfDay (t : Timestamp) : Nat := (t.seconds % 86400).toNat

/-- The text behind the year. -/
def afterYear (t : Timestamp) : String :=
  padded 2 t.date.2.1 ++ "-" ++ padded 2 t.date.2.2 ++ "T" ++ padded 2 (Int.fdiv (Int.fmod t.seconds 86400) 3600) ++
    ":" ++ padded 2 (Int.fmod (Int.fdiv (Int.fmod t.seconds 86400) 60) 60) ++ ":" ++
    padded 2 (Int.fmod (Int.fmod t.seconds 86400) 60) ++ "Z"

theorem text_eq (t : Timestamp) : t.text = padded 4 t.date.1 ++ "-" ++ t.afterYear := by
  unfold text afterYear
  simp only [String.append_assoc]
  rfl

theorem toList_text (h : 0 ≤ t.date.1) : t.text.toList =
    digits 4 t.date.1.toNat ++ '-' :: (digits 2 t.date.2.1.toNat ++ '-' :: (digits 2 t.date.2.2.toNat ++
      'T' :: (digits 2 (t.secondOfDay / 3600) ++ ':' :: (digits 2 (t.secondOfDay / 60 % 60) ++
        ':' :: (digits 2 (t.secondOfDay % 60) ++ ['Z']))))) := by
  have hpadded (width : Nat) {n : Int} (hn : 0 ≤ n) : (padded width n).toList = digits width n.toNat := by
    rw [← toList_padded, Int.toNat_of_nonneg hn]
  obtain ⟨p, hp⟩ := Calendar.Parts.exists_days (Int.fdiv t.seconds 86400)
  obtain ⟨⟨hmonth, -⟩, hday, -⟩ := p.dateOf_inMonth (by rw [hp]; exact h)
  rw [hp] at hmonth hday
  have hsecond : Int.fmod t.seconds 86400 = t.secondOfDay := by
    rw [Int.fmod_eq_emod_of_nonneg _ (by decide), secondOfDay, Int.toNat_of_nonneg (Int.emod_nonneg _ (by decide))]
  have hminutes : Int.fmod (Int.fdiv t.secondOfDay 60) 60 = (t.secondOfDay / 60 % 60 : Nat) := by
    rw [Int.fdiv_eq_ediv_of_nonneg _ (by decide), Int.fmod_eq_emod_of_nonneg _ (by decide)]
    rfl
  have hhours : Int.fdiv t.secondOfDay 3600 = (t.secondOfDay / 3600 : Nat) := by
    rw [Int.fdiv_eq_ediv_of_nonneg _ (by decide)]
    rfl
  have hseconds : Int.fmod t.secondOfDay 60 = (t.secondOfDay % 60 : Nat) := by
    rw [Int.fmod_eq_emod_of_nonneg _ (by decide)]
    rfl
  rw [text_eq, afterYear, hsecond, hminutes, hhours, hseconds]
  simp only [String.toList_append, hpadded 4 h, hpadded 2 (n := t.date.2.1) (by unfold date; omega),
    hpadded 2 (n := t.date.2.2) (by unfold date; omega), toList_padded, List.append_assoc]
  rfl

/-- The time without parts of a second. -/
def whole (t : Timestamp) : Timestamp := ⟨t.seconds, 0⟩

theorem instant?_text (h : 0 ≤ t.date.1 ∧ t.date.1 < 10000) : instant? t.text = some t.whole := by
  obtain ⟨hlow, hhigh⟩ := h
  obtain ⟨p, hp⟩ := Calendar.Parts.exists_days (Int.fdiv t.seconds 86400)
  have hdays := p.daysOf_dateOf
  obtain ⟨⟨hmonth, hmonth'⟩, hday, hday'⟩ := p.dateOf_inMonth (by rw [hp]; exact hlow)
  rw [hp] at hdays hmonth hmonth' hday hday'
  have hdate := date?_digits t.date.1.toNat t.date.2.1.toNat t.date.2.2.toNat (by omega) (by unfold date; omega)
    (by unfold date; omega)
  have htime := timeOfDay?_digits (t.secondOfDay / 3600) (t.secondOfDay / 60 % 60) (t.secondOfDay % 60)
    (by unfold secondOfDay; omega) (by omega) (by omega)
  unfold instant?
  rw [toList_text hlow, hdate]
  have hday₀ : 0 ≤ t.date.2.2 := by
    unfold date
    omega
  have hmonth₀ : 0 ≤ t.date.2.1 := by
    unfold date
    omega
  simp [htime, offset?, max_eq_left hlow, max_eq_left hmonth₀, max_eq_left hday₀, whole]
  rw [date, hdays, Int.fdiv_eq_ediv_of_nonneg _ (by decide), secondOfDay]
  omega

theorem ofText?_eq_some {s : String} : ofText? s = some t ↔ instant? s = some t ∧ t.Dated := by
  rw [ofText?, Option.filter_eq_some_iff, decide_eq_true_iff]

theorem ofText?_text (h : t.Dated) : ofText? t.text = some t.whole := by
  have hyear := year_iff.mpr ⟨h.1, Int.lt_of_le_of_lt h.2 (by decide)⟩
  exact ofText?_eq_some.mpr ⟨instant?_text hyear, h⟩

/-- A time that is not dated has no text that reads. -/
theorem dated_of_ofText? (h : ofText? t.text = some u) : t.Dated := by
  obtain ⟨h, hdated⟩ := ofText?_eq_some.mp h
  by_cases hyear : 0 ≤ t.date.1 ∧ t.date.1 < 10000
  · cases (instant?_text hyear).symm.trans h
    exact hdated
  exfalso
  simp only [instant?, bind, Option.bind_eq_some_iff] at h
  obtain ⟨⟨x, cs⟩, hdate, h⟩ := h
  have htext : t.text.toList = (padded 4 t.date.1).toList ++ '-' :: t.afterYear.toList := by
    rw [text_eq, String.toList_append, String.toList_append, List.append_assoc]
    rfl
  rw [htext] at hdate
  rcases Int.lt_or_le t.date.1 0 with hneg | hlow
  -- The text begins with a sign.
  · have hsign : (padded 4 t.date.1).toList.head? = some '-' := by
      unfold padded
      rw [if_pos hneg]
      simp [String.toList_append]
    obtain ⟨ds, hds⟩ := List.head?_eq_some_iff.mp hsign
    rw [hds] at hdate
    simp [date?, digits?] at hdate
  · have hdigits : (padded 4 t.date.1).toList = digits 4 t.date.1.toNat := by
      rw [← toList_padded, Int.toNat_of_nonneg hlow]
    have hlong : 4 < (digits 4 t.date.1.toNat).length := by
      have hdigits : ¬(Nat.toDigits 10 t.date.1.toNat).length ≤ 4 := by
        rw [Nat.length_toDigits_le_iff (by decide) (by decide)]
        omega
      rw [digits, List.length_append]
      omega
    rw [hdigits] at hdate
    obtain ⟨c, hc, hmark⟩ := date?_long digits_isDigit hlong hdate
    obtain ⟨cs, rfl⟩ := List.head?_eq_some_iff.mp hc
    have hnot : c ∉ ['T', 't', ' '] := by
      rintro hmem
      simp only [List.mem_cons, List.not_mem_nil, or_false] at hmem
      rcases hmem with rfl | rfl | rfl <;> exact absurd hmark (by decide)
    dsimp only at h
    rw [if_pos hnot] at h
    cases h

end Timestamp
end PlatformOperator
