import PlatformOperator.Condition.Manager

/-! Setting a condition stores it and, if that changed anything, the happy condition that the stored
    conditions then entail. A second look finds the happy condition in line, since it is none of its own
    dependents: three stores are enough. -/

namespace PlatformOperator

namespace Condition

/-- A condition without its times. -/
def timeless (c : Condition) : Condition := { c with lastTransitionTime := none, lastHeartbeatTime := none }

variable {old c d : Condition} {now : Timestamp}

theorem said_of_timeless (h : d.timeless = c.timeless) :
    d.status = c.status ∧ d.reason = c.reason ∧ d.message = c.message := by
  simp only [timeless, mk.injEq, true_and] at h
  obtain ⟨-, hstatus, -, hreason, hmessage, -⟩ := h
  exact ⟨hstatus, hreason, hmessage⟩

theorem observed_of_timeless (h : d.timeless = c.timeless) :
    d.observedGeneration = c.observedGeneration ∧ d.severity = c.severity := by
  simp only [timeless, mk.injEq, true_and] at h
  obtain ⟨-, -, hgeneration, -, -, hseverity⟩ := h
  exact ⟨hgeneration, hseverity⟩

theorem update_timeless (h : old.type = c.type) : (old.update c now).2.timeless = c.timeless := by
  cases old
  cases c
  cases h
  rfl

theorem update_fst_eq_false (h : old.type = c.type) :
    (old.update c now).1 = false ↔ old.timeless = c.timeless := by
  cases old
  cases c
  cases h
  simp only [update, timeless, bne_eq_false_iff_eq, Bool.or_eq_false_iff, mk.injEq, true_and]
  constructor
  · rintro ⟨⟨⟨⟨hstatus, hreason⟩, hmessage⟩, hgeneration⟩, hseverity⟩
    exact ⟨hstatus, hgeneration, hreason, hmessage, hseverity⟩
  · rintro ⟨hstatus, hgeneration, hreason, hmessage, hseverity⟩
    exact ⟨⟨⟨⟨hstatus, hreason⟩, hmessage⟩, hgeneration⟩, hseverity⟩

/-- Without a change nothing moves, the transition time included. -/
theorem update_snd_of_fst (h : (old.update c now).1 = false) : (old.update c now).2 = old := by
  simp only [update, Bool.or_eq_false_iff, bne_eq_false_iff_eq] at h
  obtain ⟨⟨⟨⟨hstatus, hreason⟩, hmessage⟩, hgeneration⟩, hseverity⟩ := h
  simp only [update, hstatus, ← hreason, ← hmessage, ← hgeneration, ← hseverity, ↓reduceIte]
  rw [← hstatus]

end Condition

namespace Manager
open Condition

section
variable {c : Condition} {now : Timestamp} {cs : List Condition}

theorem storeIn_snd_of_fst (h : (storeIn c now cs).1 = false) : (storeIn c now cs).2 = cs := by
  induction cs with
  | nil => cases h
  | cons old cs ih =>
    unfold storeIn at h ⊢
    split at h
    · rename_i htype
      rw [if_pos htype]
      exact congrArg (· :: cs) (update_snd_of_fst h)
    · rename_i htype
      rw [if_neg htype]
      exact congrArg (old :: ·) (ih h)

theorem storeIn_find? (c : Condition) (now : Timestamp) (cs : List Condition) :
    ∃ d, (storeIn c now cs).2.find? (·.type == c.type) = some d ∧ d.timeless = c.timeless := by
  induction cs with
  | nil => exact ⟨{ c with lastTransitionTime := some (c.lastTransitionTime.getD now) }, by simp [storeIn], rfl⟩
  | cons old cs ih =>
    unfold storeIn
    by_cases htype : old.type = c.type
    · rw [if_pos htype]
      refine ⟨(old.update c now).2, ?_, update_timeless htype⟩
      exact List.find?_cons_of_pos (beq_iff_eq.mpr htype)
    · rw [if_neg htype]
      obtain ⟨d, hd, hsame⟩ := ih
      refine ⟨d, ?_, hsame⟩
      rw [← hd]
      exact List.find?_cons_of_neg (by simpa using htype)

/-- A condition that already stands as it is asked to changes nothing. -/
theorem storeIn_fst_of_find? {d : Condition} (hd : cs.find? (·.type == c.type) = some d)
    (hsame : d.timeless = c.timeless) : (storeIn c now cs).1 = false := by
  induction cs with
  | nil => cases hd
  | cons old cs ih =>
    unfold storeIn
    by_cases htype : old.type = c.type
    · have hfirst : (old :: cs).find? (·.type == c.type) = some old :=
        List.find?_cons_of_pos (beq_iff_eq.mpr htype)
      rw [hfirst] at hd
      cases hd
      rw [if_pos htype]
      show (d.update c now).1 = false
      exact (update_fst_eq_false htype).mpr hsame
    · have hrest : (old :: cs).find? (·.type == c.type) = cs.find? (·.type == c.type) :=
        List.find?_cons_of_neg (by simpa using htype)
      rw [if_neg htype]
      exact ih (hrest ▸ hd)

/-- Conditions of other types stay as they are. -/
theorem storeIn_filter {p : String → Bool} (hp : p c.type = false) :
    (storeIn c now cs).2.filter (fun d => p d.type) = cs.filter fun d => p d.type := by
  induction cs with
  | nil => simp [storeIn, hp]
  | cons old cs ih =>
    unfold storeIn
    by_cases htype : old.type = c.type
    · rw [if_pos htype, List.filter_cons, List.filter_cons]
      simp [update, htype, hp]
    · rw [if_neg htype, List.filter_cons, List.filter_cons, ih]

end

variable {m m' : Manager} {c top : Condition} {now : Timestamp} {clock : Clock} {t : String}

/-- The conditions of other types than the happy one. -/
def others (m : Manager) : List Condition := m.conditions.filter (·.type != m.happy)

/-! ### Stores -/

@[simp] theorem store_happy : (m.store c now).2.happy = m.happy := rfl

@[simp] theorem store_dependents : (m.store c now).2.dependents = m.dependents := rfl

theorem store_snd_of_fst (h : (m.store c now).1 = false) : (m.store c now).2 = m := by
  have hsame : (storeIn c now m.conditions).2 = m.conditions := storeIn_snd_of_fst h
  unfold store
  simp only [hsame]

theorem store_condition? (c : Condition) (now : Timestamp) (m : Manager) :
    ∃ d, (m.store c now).2.condition? c.type = some d ∧ d.timeless = c.timeless :=
  storeIn_find? c now m.conditions

theorem store_again (c : Condition) (now now' : Timestamp) (m : Manager) :
    ((m.store c now).2.store c now').1 = false := by
  obtain ⟨d, hd, hsame⟩ := store_condition? c now m
  exact storeIn_fst_of_find? hd hsame

theorem store_others (h : c.type = m.happy) : (m.store c now).2.others = m.others :=
  storeIn_filter (p := (· != m.happy)) (by simp [h])

/-- The condition of another type is one of the others. -/
theorem condition?_of_ne (h : t ≠ m.happy) : m.condition? t = m.others.find? (·.type == t) := by
  unfold condition? others
  rw [List.find?_filter]
  congr 1
  funext c
  by_cases hc : c.type = t
  · simp [hc, h]
  · simp [hc]

/-! ### The entailed happy condition -/

theorem isDependent_ne (h : m.isDependent t = true) : t ≠ m.happy := by
  unfold isDependent at h
  split at h
  · exact bne_iff_ne.mp h
  · rintro rfl
    exact m.happy_not_mem (List.contains_iff_mem.mp h)

/-- The conditions that bear on the happy one do not depend on it. -/
theorem candidates_congr (hhappy : m'.happy = m.happy) (hdeps : m'.dependents = m.dependents)
    (hothers : m'.others = m.others) : m'.candidates = m.candidates := by
  have hfilter (m : Manager) : (m.conditions.filter fun c => m.isDependent c.type && c.severity == .error) =
      m.others.filter fun c => m.isDependent c.type && c.severity == .error := by
    unfold others
    rw [List.filter_filter]
    apply List.filter_congr
    intro c _
    cases hdep : m.isDependent c.type with
    | false => rfl
    | true => rw [bne_iff_ne.mpr (isDependent_ne hdep), Bool.and_true]
  unfold candidates
  rw [hfilter m', hfilter m, hothers]
  simp only [isDependent, hhappy, hdeps]

theorem entailed?_store_happy (h : c.type = m.happy) : (m.store c now).2.entailed? t = m.entailed? t := by
  unfold entailed? unhappy?
  rw [candidates_congr store_happy store_dependents (store_others h)]
  rfl

theorem entailed?_type (h : m.entailed? t = some top) : top.type = m.happy := by
  unfold entailed? at h
  split at h
  · cases h
    rfl
  · split at h
    · cases h
    · cases h
      rfl

/-- A look after a change of the happy condition asks for the same as the one before, if for anything. -/
theorem entailed?_happy (h : m.entailed? t = some top) :
    m.entailed? m.happy = none ∨ m.entailed? m.happy = some top := by
  unfold entailed? at h ⊢
  split at h
  · exact Or.inr h
  · exact Or.inl (if_pos rfl)

/-- The happy condition put in line after a change of type `changed`. -/
def aligned (changed : String) (now : Timestamp) (m : Manager) : Manager :=
  match m.entailed? changed with
  | none => m
  | some top => (m.store top now).2

theorem aligned_happy : (m.aligned t now).happy = m.happy := by
  unfold aligned
  split <;> rfl

theorem aligned_dependents : (m.aligned t now).dependents = m.dependents := by
  unfold aligned
  split <;> rfl

theorem aligned_others : (m.aligned t now).others = m.others := by
  unfold aligned
  split
  · rfl
  · rename_i top htop
    exact store_others (entailed?_type htop)

/-! ### Setting a condition -/

/-- Two stores are enough for the happy condition: one of it and one that finds it in line. -/
theorem setWithin_entailed (h : m.entailed? t = some top) (clock : Clock) (n : Nat) :
    ∃ clock', setWithin (n + 2) top m clock = some ((m.store top clock.next).2, clock') := by
  unfold setWithin
  cases hchanged : (m.store top clock.next).1 with
  | false => exact ⟨clock.tick, by simp [hchanged]⟩
  | true =>
    have htype : top.type = m.happy := entailed?_type h
    have hentailed : (m.store top clock.next).2.entailed? top.type = m.entailed? m.happy := by
      rw [htype, entailed?_store_happy htype]
    -- The second look sees the same other conditions as the first, so it asks for what was just stored.
    rcases entailed?_happy h with hnone | hsome
    · exact ⟨clock.tick, by simp [hchanged, hentailed, hnone]⟩
    · have hagain := store_again top clock.next clock.tick.next m
      have hkept := store_snd_of_fst hagain
      refine ⟨clock.tick.tick, ?_⟩
      simp only [hchanged, ↓reduceIte, hentailed, hsome]
      unfold setWithin
      simp [hagain, hkept]

theorem setWithin_eq (c : Condition) (m : Manager) (clock : Clock) :
    ∃ clock', setWithin 3 c m clock = some
      (if (m.store c clock.next).1 then (m.store c clock.next).2.aligned c.type clock.tick.next else m, clock') := by
  unfold setWithin
  cases hchanged : (m.store c clock.next).1 with
  | false => exact ⟨clock.tick, by simp [hchanged, store_snd_of_fst hchanged]⟩
  | true =>
    cases hentailed : (m.store c clock.next).2.entailed? c.type with
    | none => exact ⟨clock.tick, by simp [hchanged, hentailed, aligned]⟩
    | some top =>
      obtain ⟨clock', hset⟩ := setWithin_entailed hentailed clock.tick 0
      exact ⟨clock', by simp [hchanged, hentailed, aligned, hset]⟩

theorem set_fst (c : Condition) (m : Manager) (clock : Clock) :
    (m.set c clock).1 =
      if (m.store c clock.next).1 then (m.store c clock.next).2.aligned c.type clock.tick.next else m := by
  obtain ⟨clock', hset⟩ := setWithin_eq c m clock
  unfold set
  rw [hset]
  rfl

/-- The condition that was set stands as it was asked to. Only the happy one may at once be changed again. -/
theorem set_condition? (h : c.type ≠ m.happy) (clock : Clock) :
    ∃ d, (m.set c clock).1.condition? c.type = some d ∧ d.timeless = c.timeless := by
  rw [set_fst]
  cases hchanged : (m.store c clock.next).1 with
  | false =>
    rw [← store_snd_of_fst hchanged]
    exact store_condition? c clock.next m
  | true =>
    rw [if_pos rfl, condition?_of_ne (by rw [aligned_happy]; exact h), aligned_others, ← condition?_of_ne (by exact h)]
    exact store_condition? c clock.next m

theorem recompute_fst (t : String) (m : Manager) (clock : Clock) :
    (m.recompute t clock).1 = m.aligned t clock.next := by
  unfold recompute aligned
  cases hentailed : m.entailed? t with
  | none => rfl
  | some top =>
    obtain ⟨clock', hset⟩ := setWithin_entailed hentailed clock 1
    simp only [set, hset]
    rfl

theorem recompute_of_none (h : m.entailed? t = none) (clock : Clock) : (m.recompute t clock).1 = m := by
  rw [recompute_fst, aligned, h]

/-- The recomputed happy condition is the one that the others entail. -/
theorem recompute_top? (h : m.entailed? t = some top) (clock : Clock) :
    ∃ d, (m.recompute t clock).1.top? = some d ∧ d.timeless = top.timeless := by
  rw [recompute_fst, aligned, h]
  obtain ⟨d, hd, hsame⟩ := store_condition? top clock.next m
  refine ⟨d, ?_, hsame⟩
  show (m.store top clock.next).2.condition? m.happy = some d
  rw [← entailed?_type h]
  exact hd

theorem recompute_condition? {changed : String} (h : t ≠ m.happy) (clock : Clock) :
    (m.recompute changed clock).1.condition? t = m.condition? t := by
  rw [recompute_fst, condition?_of_ne (by rw [aligned_happy]; exact h), aligned_others, ← condition?_of_ne h]

end Manager

end PlatformOperator
