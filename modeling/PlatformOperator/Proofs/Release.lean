import Mathlib.Logic.Basic
import PlatformOperator.Proofs.Text.Integer
import PlatformOperator.Release

/-! Platforms and versions differ just as their texts do. -/

namespace PlatformOperator

theorem Platform.text_injective {p q : Platform} (h : p.text = q.text) : p = q := by
  cases p <;> cases q <;> first | rfl | exact absurd h (by decide)

/-- The text of a platform ends where it must, since none begins as another one reads. -/
theorem Platform.text_append_injective {p q : Platform} {s t : String} (h : p.text ++ s = q.text ++ t) :
    p = q ∧ s = t := by
  have hlist : p.text.toList ++ s.toList = q.text.toList ++ t.toList := by
    rw [← String.toList_append, h, String.toList_append]
  have hbegins : p.text.toList <+: q.text.toList ∨ q.text.toList <+: p.text.toList :=
    List.prefix_or_prefix_of_prefix ⟨s.toList, hlist⟩ ⟨t.toList, rfl⟩
  obtain rfl : p = q := by
    revert hbegins
    cases p <;> cases q <;> decide
  exact ⟨rfl, (String.append_right_inj _).mp h⟩

namespace Version

/-- What a text adds behind the three numbers. -/
def suffix (v : Version) : List Char :=
  (if v.preRelease = "" then [] else '-' :: v.preRelease.toList) ++
    if v.build = "" then [] else '+' :: v.build.toList

theorem toList_text (v : Version) :
    v.text.toList = Nat.toDigits 10 v.major ++ '.' :: (Nat.toDigits 10 v.minor ++
      '.' :: (Nat.toDigits 10 v.patch ++ v.suffix)) := by
  rw [text, suffix]
  by_cases hpre : v.preRelease = "" <;> by_cases hbuild : v.build = "" <;>
    simp [hpre, hbuild, Nat.toString_eq_repr, Nat.toList_repr]

/-- A number ends where no digit follows. -/
theorem digits_append_inj {m n : Nat} {r s : List Char} (hr : ∀ c ∈ r.head?, c.isDigit = false)
    (hs : ∀ c ∈ s.head?, c.isDigit = false) (h : Nat.toDigits 10 m ++ r = Nat.toDigits 10 n ++ s) :
    m = n ∧ r = s := by
  obtain ⟨hdigits, hrest⟩ := Text.append_inj_of_boundary
    (fun _ => Nat.isDigit_of_mem_toDigits (by decide) (by decide))
    (fun _ => Nat.isDigit_of_mem_toDigits (by decide) (by decide)) hr hs h
  refine ⟨?_, hrest⟩
  rw [← Nat.ofDigitChars_ten_toDigits (n := m), hdigits, Nat.ofDigitChars_ten_toDigits]

theorem suffix_head (v : Version) : ∀ c ∈ v.suffix.head?, c.isDigit = false := by
  rw [suffix]
  by_cases hpre : v.preRelease = "" <;> by_cases hbuild : v.build = "" <;> simp [hpre, hbuild]

theorem suffix_injective {u v : Version} (h : u.suffix = v.suffix) :
    u.preRelease = v.preRelease ∧ u.build = v.build := by
  have plain (v : Version) : ∀ c ∈ (if v.preRelease = "" then [] else '-' :: v.preRelease.toList),
      (c != '+') = true := by
    intro c hc
    split at hc
    · cases hc
    · rcases List.mem_cons.mp hc with rfl | hc
      · rfl
      · exact bne_iff_ne.mpr fun heq => v.preRelease_plain (heq ▸ hc)
  have plus (v : Version) : ∀ c ∈ (if v.build = "" then [] else '+' :: v.build.toList).head?,
      (c != '+') = false := by
    intro c hc
    split at hc
    · cases hc
    · cases hc
      rfl
  obtain ⟨hpre, hbuild⟩ := Text.append_inj_of_boundary (plain u) (plain v) (plus u) (plus v) h
  constructor
  · split at hpre <;> split at hpre
    · next hu hv => rw [hu, hv]
    · cases hpre
    · cases hpre
    · exact String.toList_inj.mp (List.cons.inj hpre).2
  · split at hbuild <;> split at hbuild
    · next hu hv => rw [hu, hv]
    · cases hbuild
    · cases hbuild
    · exact String.toList_inj.mp (List.cons.inj hbuild).2

theorem text_injective {u v : Version} (h : u.text = v.text) : u = v := by
  have dot (r : List Char) : ∀ c ∈ ('.' :: r).head?, c.isDigit = false := by
    intro c hc
    cases hc
    rfl
  have h := congrArg String.toList h
  rw [toList_text, toList_text] at h
  obtain ⟨hmajor, h⟩ := digits_append_inj (dot _) (dot _) h
  obtain ⟨hminor, h⟩ := digits_append_inj (dot _) (dot _) (List.cons.inj h).2
  obtain ⟨hpatch, h⟩ := digits_append_inj u.suffix_head v.suffix_head (List.cons.inj h).2
  obtain ⟨hpre, hbuild⟩ := suffix_injective h
  cases u
  cases v
  congr

end Version

/-- Releases differ if their platforms or versions read differently. -/
theorem Release.ne_iff_text_ne {q r : Release} :
    q ≠ r ↔ q.version.text ≠ r.version.text ∨ q.platform.text ≠ r.platform.text := by
  rw [← not_and_or, not_iff_not]
  constructor
  · rintro rfl
    exact ⟨rfl, rfl⟩
  · rintro ⟨hversion, hplatform⟩
    cases q
    cases r
    rw [Release.mk.injEq]
    exact ⟨Platform.text_injective hplatform, Version.text_injective hversion⟩

end PlatformOperator
