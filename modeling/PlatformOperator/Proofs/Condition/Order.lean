import PlatformOperator.Condition.Manager
import PlatformOperator.Proofs.Text.Bytes

/-! The two orders of conditions. By transition time the unhappy dependent is a latest one of its status;
    by place a sort moves types only, so each type keeps the order of its conditions: the happy one comes first, then
    the dependents as declared, then all others by the bytes of their types. -/

namespace PlatformOperator

/-! ### Stable sorts -/

/-- Where nothing of a kind stands behind something of another kind, those of the kind come first. -/
theorem eq_filter_append_filter {α : Type} {p : α → Bool} {l : List α}
    (h : l.Pairwise fun a b => p b = true → p a = true) : l = l.filter p ++ l.filter fun a => !p a := by
  induction l with
  | nil => rfl
  | cons a l ih =>
    obtain ⟨hfirst, hrest⟩ := List.pairwise_cons.mp h
    cases ha : p a with
    | true =>
      rw [List.filter_cons_of_pos ha, List.filter_cons_of_neg (by simp [ha]), List.cons_append, ← ih hrest]
    | false =>
      have hnone : ∀ b ∈ a :: l, p b = false := by
        intro b hb
        rcases List.mem_cons.mp hb with rfl | hb
        · exact ha
        · exact Bool.eq_false_iff.mpr fun hpb => Bool.eq_false_iff.mp ha (hfirst b hb hpb)
      have hempty : (a :: l).filter p = [] := List.filter_eq_nil_iff.mpr fun b hb => Bool.eq_false_iff.mp (hnone b hb)
      have hall : ((a :: l).filter fun b => !p b) = a :: l :=
        List.filter_eq_self.mpr fun b hb => by rw [hnone b hb, Bool.not_false]
      rw [hempty, hall, List.nil_append]

/-- In `l`, the entry is of the kind and precedes all others of the kind. -/
def leads {α : Type} (r : α → α → Bool) (p : α → Bool) (l : List α) (a : α) : Bool :=
  p a && l.all fun b => !p b || r a b

section
variable {α : Type} {r : α → α → Bool} {l : List α} {p : α → Bool} {a b : α}

theorem leads_iff : leads r p l a = true ↔ p a = true ∧ ∀ b ∈ l, p b = true → r a b = true := by
  simp only [leads, Bool.and_eq_true, List.all_eq_true, Bool.or_eq_true, Bool.not_eq_true', ← Bool.not_eq_true,
    Decidable.imp_iff_not_or]

variable (htrans : ∀ a b c, r a b = true → r b c = true → r a c = true) (htotal : ∀ a b, (r a b || r b a) = true)
include htrans htotal

/-- Entries that may stand in either order keep the one they have. -/
theorem filter_mergeSort_of_tied (htied : ∀ a ∈ l, ∀ b ∈ l, p a = true → p b = true → r a b = true) :
    (l.mergeSort r).filter p = l.filter p := by
  have hpairs : (l.filter p).Pairwise fun a b => r a b = true := by
    apply List.pairwise_of_forall_mem_list
    intro a ha b hb
    obtain ⟨ha, hpa⟩ := List.mem_filter.mp ha
    obtain ⟨hb, hpb⟩ := List.mem_filter.mp hb
    exact htied a ha b hb hpa hpb
  have hsub : (l.filter p).Sublist (l.mergeSort r) := List.sublist_mergeSort htrans htotal hpairs List.filter_sublist
  have hkept := hsub.filter p
  rw [List.filter_filter] at hkept
  simp only [Bool.and_self] at hkept
  exact (hkept.eq_of_length (((List.mergeSort_perm l r).filter p).length_eq).symm).symm

/-- The first of its kind in a sorted list precedes all others of the kind. -/
theorem precedes_of_find?_mergeSort (h : (l.mergeSort r).find? p = some a) (hb : b ∈ l) (hpb : p b = true) :
    r a b = true := by
  obtain ⟨-, before, after, heq, hnone⟩ := List.find?_eq_some_iff_append.mp h
  have hsorted : (before ++ a :: after).Pairwise fun a b => r a b = true := by
    rw [← heq]
    exact List.pairwise_mergeSort htrans htotal l
  have hmem : b ∈ before ++ a :: after := by
    rw [← heq]
    exact List.mem_mergeSort.mpr hb
  -- What stands before the first match is not of its kind, and what stands after it is sorted behind it.
  rcases List.mem_append.mp hmem with hbefore | hafter
  · exact absurd hpb (by simpa using hnone b hbefore)
  · rcases List.mem_cons.mp hafter with rfl | hafter
    · simpa using htotal b b
    · have hrest := (List.pairwise_append.mp hsorted).2.1
      exact (List.pairwise_cons.mp hrest).1 b hafter

/-- To sort and take the first of a kind is to take the first that leads its kind. -/
theorem find?_mergeSort : (l.mergeSort r).find? p = l.find? (leads r p l) := by
  have hstable : (l.mergeSort r).filter (leads r p l) = l.filter (leads r p l) :=
    filter_mergeSort_of_tied htrans htotal fun a _ b hb ha hleads =>
      (leads_iff.mp ha).2 b hb (leads_iff.mp hleads).1
  rw [← List.head?_filter (p := leads r p l), ← hstable, List.head?_filter]
  cases hfirst : (l.mergeSort r).find? p with
  | none =>
    refine (List.find?_eq_none.mpr fun a ha hleads => ?_).symm
    exact List.find?_eq_none.mp hfirst a ha (leads_iff.mp hleads).1
  | some a =>
    obtain ⟨hpa, before, after, heq, hnone⟩ := List.find?_eq_some_iff_append.mp hfirst
    refine (List.find?_eq_some_iff_append.mpr ⟨?_, before, after, heq, fun b hb => ?_⟩).symm
    · exact leads_iff.mpr ⟨hpa, fun b hb => precedes_of_find?_mergeSort htrans htotal hfirst hb⟩
    · rw [Bool.not_eq_true', ← Bool.not_eq_true, leads_iff]
      exact fun hleads => absurd hleads.1 (by simpa using hnone b hb)

/-- The first of a sorted list is the first that precedes all others. -/
theorem head?_mergeSort : (l.mergeSort r).head? = l.find? (leads r (fun _ => true) l) := by
  rw [← find?_mergeSort htrans htotal]
  cases l.mergeSort r with
  | nil => rfl
  | cons a l => rfl

end

namespace Timestamp

theorem le_iff {a b : Timestamp} :
    a.le b = true ↔ a.seconds < b.seconds ∨ a.seconds = b.seconds ∧ a.nanos ≤ b.nanos := by
  simp only [le, Bool.or_eq_true, Bool.and_eq_true, decide_eq_true_eq, beq_iff_eq]

theorem le_refl (a : Timestamp) : a.le a = true := le_iff.mpr (Or.inr ⟨rfl, Nat.le_refl _⟩)

theorem le_trans {a b c : Timestamp} (hab : a.le b = true) (hbc : b.le c = true) : a.le c = true := by
  rw [le_iff] at hab hbc ⊢
  omega

theorem le_total (a b : Timestamp) : a.le b = true ∨ b.le a = true := by
  rw [le_iff, le_iff]
  omega

end Timestamp

/-- `d` made its transition no later than `c`; a missing time is earlier than any other. -/
def Condition.NoLater (d c : Condition) : Prop :=
  ∀ t, d.lastTransitionTime = some t → ∃ u, c.lastTransitionTime = some u ∧ t.le u = true

namespace Manager
variable {m : Manager} {c d : Condition}

/-! ### Transition times -/

theorem notEarlier_iff : notEarlier c d = true ↔ d.NoLater c := by
  unfold notEarlier Condition.NoLater
  cases hc : c.lastTransitionTime <;> cases hd : d.lastTransitionTime <;> simp

theorem notEarlier_trans (a b c : Condition) (hab : notEarlier a b = true) (hbc : notEarlier b c = true) :
    notEarlier a c = true := by
  rw [notEarlier_iff] at hab hbc ⊢
  intro t ht
  obtain ⟨u, hu, htu⟩ := hbc t ht
  obtain ⟨v, hv, huv⟩ := hab u hu
  exact ⟨v, hv, Timestamp.le_trans htu huv⟩

theorem notEarlier_total (a b : Condition) : (notEarlier a b || notEarlier b a) = true := by
  unfold notEarlier
  cases a.lastTransitionTime with
  | none => cases b.lastTransitionTime <;> rfl
  | some t =>
    cases b.lastTransitionTime with
    | none => rfl
    | some u => exact Bool.or_eq_true _ _ ▸ Timestamp.le_total u t

theorem mem_candidates : c ∈ m.candidates ↔ c ∈ m.conditions ∧ m.isDependent c.type = true ∧ c.severity = .error := by
  rw [candidates, List.mem_mergeSort, List.mem_filter, Bool.and_eq_true, beq_iff_eq]

theorem candidate_noLater {p : Condition → Bool} (h : m.candidates.find? p = some c) (hd : d ∈ m.candidates)
    (hp : p d = true) : d.NoLater c :=
  notEarlier_iff.mp (precedes_of_find?_mergeSort notEarlier_trans notEarlier_total h (List.mem_mergeSort.mp hd) hp)

theorem unhappy?_eq_none (h : m.unhappy? = none) (hc : c ∈ m.candidates) : c.status = .true := by
  unfold unhappy? at h
  cases hfalse : m.candidates.find? (·.status == .false) with
  | some d =>
    rw [hfalse] at h
    cases h
  | none =>
    rw [hfalse] at h
    have hnotFalse := List.find?_eq_none.mp hfalse c hc
    have hnotUnknown := List.find?_eq_none.mp h c hc
    cases hs : c.status with
    | true => rfl
    | false => simp [hs] at hnotFalse
    | unknown => simp [hs] at hnotUnknown

/-- The unhappy dependent is a latest candidate of its status, which is Unknown only without a False one. -/
theorem unhappy?_eq_some (h : m.unhappy? = some c) :
    c ∈ m.candidates ∧ (c.status = .false ∨ c.status = .unknown ∧ ∀ d ∈ m.candidates, d.status ≠ .false) ∧
      ∀ d ∈ m.candidates, d.status = c.status → d.NoLater c := by
  have latest {s : ConditionStatus} (hs : m.candidates.find? (·.status == s) = some c) :
      c ∈ m.candidates ∧ c.status = s ∧ ∀ d ∈ m.candidates, d.status = c.status → d.NoLater c := by
    have hcs : c.status = s := by simpa using List.find?_some hs
    refine ⟨List.mem_of_find?_eq_some hs, hcs, fun d hd hdc => ?_⟩
    exact candidate_noLater hs hd (beq_iff_eq.mpr (hdc.trans hcs))
  unfold unhappy? at h
  cases hfalse : m.candidates.find? (·.status == .false) with
  | some d =>
    rw [hfalse] at h
    cases h
    obtain ⟨hmem, hs, hlast⟩ := latest hfalse
    exact ⟨hmem, Or.inl hs, hlast⟩
  | none =>
    rw [hfalse] at h
    obtain ⟨hmem, hs, hlast⟩ := latest h
    refine ⟨hmem, Or.inr ⟨hs, fun d hd hdf => ?_⟩, hlast⟩
    exact List.find?_eq_none.mp hfalse d hd (beq_iff_eq.mpr hdf)

/-! ### Places -/

/-- The order of a sort. -/
def placed (m : Manager) (a b : Condition) : Bool :=
  m.rank a.type < m.rank b.type || (m.rank a.type == m.rank b.type && a.type ≤ b.type)

theorem placed_iff : m.placed c d = true ↔
    m.rank c.type < m.rank d.type ∨ m.rank c.type = m.rank d.type ∧ c.type ≤ d.type := by
  simp only [placed, Bool.or_eq_true, Bool.and_eq_true, decide_eq_true_eq, beq_iff_eq]

theorem placed_trans (a b c : Condition) (hab : m.placed a b = true) (hbc : m.placed b c = true) :
    m.placed a c = true := by
  rw [placed_iff] at hab hbc ⊢
  rcases hab with hab | ⟨hab, hle⟩ <;> rcases hbc with hbc | ⟨hbc, hle'⟩
  · exact Or.inl (Nat.lt_trans hab hbc)
  · exact Or.inl (hbc ▸ hab)
  · exact Or.inl (hab ▸ hbc)
  · exact Or.inr ⟨hab.trans hbc, String.le_trans hle hle'⟩

theorem placed_total (a b : Condition) : (m.placed a b || m.placed b a) = true := by
  rw [Bool.or_eq_true, placed_iff, placed_iff]
  rcases Nat.lt_trichotomy (m.rank a.type) (m.rank b.type) with h | h | h
  · exact Or.inl (Or.inl h)
  · rcases String.le_total a.type b.type with hle | hle
    · exact Or.inl (Or.inr ⟨h, hle⟩)
    · exact Or.inr (Or.inr ⟨h.symm, hle⟩)
  · exact Or.inr (Or.inl h)

theorem sort_perm (m : Manager) : m.sort.conditions.Perm m.conditions := List.mergeSort_perm _ _

/-- A sort is stable: conditions of one type keep their order. -/
theorem sort_filter_type (m : Manager) (t : String) :
    m.sort.conditions.filter (·.type == t) = m.conditions.filter (·.type == t) := by
  refine filter_mergeSort_of_tied (r := m.placed) placed_trans placed_total fun a _ b _ ha hb => ?_
  rw [placed_iff, beq_iff_eq.mp ha, beq_iff_eq.mp hb]
  exact Or.inr ⟨rfl, String.le_refl t⟩

theorem sort_condition? (m : Manager) (t : String) : m.sort.condition? t = m.condition? t := by
  unfold condition?
  rw [← List.head?_filter, ← List.head?_filter, sort_filter_type]

/-- The conditions of type `t`, in their order. -/
def ofType (m : Manager) (t : String) : List Condition := m.conditions.filter (·.type == t)

theorem sort_sorted (m : Manager) : m.sort.conditions.Pairwise fun c d => m.placed c d = true :=
  List.pairwise_mergeSort placed_trans placed_total _

theorem sort_sort (m : Manager) : m.sort.sort = m.sort := by
  have hsame : m.sort.sort.conditions = m.sort.conditions := List.mergeSort_of_pairwise m.sort_sorted
  show { m with conditions := m.sort.sort.conditions } = { m with conditions := m.sort.conditions }
  rw [hsame]

theorem rank_le_of_placed (h : m.placed c d = true) : m.rank c.type ≤ m.rank d.type := by
  rcases placed_iff.mp h with hlt | ⟨heq, -⟩
  · exact Nat.le_of_lt hlt
  · exact Nat.le_of_eq heq

theorem rank_eq_zero {t : String} : m.rank t = 0 ↔ t = m.happy := by
  unfold rank
  split
  · rename_i heq
    exact ⟨fun _ => heq, fun _ => rfl⟩
  · rename_i hne
    exact ⟨fun h => absurd h (Nat.succ_ne_zero _), fun h => absurd h hne⟩

theorem rank_of_ne {t : String} (h : t ≠ m.happy) : m.rank t = m.dependents.idxOf t + 1 := if_neg h

theorem idxOf_le_of_placed (hc : c.type ≠ m.happy) (hd : d.type ≠ m.happy) (h : m.placed c d = true) :
    m.dependents.idxOf c.type ≤ m.dependents.idxOf d.type := by
  have hrank := rank_le_of_placed h
  rw [rank_of_ne hc, rank_of_ne hd] at hrank
  exact Nat.le_of_succ_le_succ hrank

/-- Of the types that are no dependents, none has a place of its own. -/
theorem type_le_of_placed (hc : c.type ≠ m.happy ∧ c.type ∉ m.dependents)
    (hd : d.type ≠ m.happy ∧ d.type ∉ m.dependents) (h : m.placed c d = true) : c.type ≤ d.type := by
  have hrank : m.rank c.type = m.rank d.type := by
    rw [rank_of_ne hc.1, rank_of_ne hd.1, List.idxOf_eq_length hc.2, List.idxOf_eq_length hd.2]
  rcases placed_iff.mp h with hlt | ⟨-, hle⟩
  · exact absurd hrank (Nat.ne_of_lt hlt)
  · exact hle

theorem sort_happy_first (m : Manager) :
    m.sort.conditions = m.ofType m.happy ++ m.sort.conditions.filter fun c => !(c.type == m.happy) := by
  rw [ofType, ← sort_filter_type]
  refine eq_filter_append_filter (m.sort_sorted.imp fun {c d} hcd hd => ?_)
  have hrank := rank_le_of_placed hcd
  rw [rank_eq_zero.mpr (beq_iff_eq.mp hd)] at hrank
  exact beq_iff_eq.mpr (rank_eq_zero.mp (Nat.le_zero.mp hrank))

theorem dependents_first {cs : List Condition} (hsorted : cs.Pairwise fun c d => m.placed c d = true)
    (hcs : ∀ c ∈ cs, c.type ≠ m.happy) :
    cs = (cs.filter fun c => m.dependents.contains c.type) ++ cs.filter fun c => !m.dependents.contains c.type := by
  refine eq_filter_append_filter (hsorted.imp_of_mem fun {c d} hc hd hcd hdep => ?_)
  have hlt : m.dependents.idxOf d.type < m.dependents.length :=
    List.idxOf_lt_length_iff.mpr (List.contains_iff_mem.mp hdep)
  have hle := idxOf_le_of_placed (hcs c hc) (hcs d hd) hcd
  exact List.contains_iff_mem.mpr (List.idxOf_lt_length_iff.mp (Nat.lt_of_le_of_lt hle hlt))

/-- Sorted are all conditions that were there: the happy ones, then those of the dependents as declared, then all others
    by the bytes of their types. Those of one type keep their order, and a second sort changes nothing. -/
theorem sort_arranges (m : Manager) :
    m.sort.conditions.Perm m.conditions ∧
    (∃ declared others, m.sort.conditions = m.ofType m.happy ++ (declared ++ others) ∧
      (∀ c ∈ declared, c.type ∈ m.dependents) ∧
      (declared.Pairwise fun c d => m.dependents.idxOf c.type ≤ m.dependents.idxOf d.type) ∧
      (∀ c ∈ others, c.type ≠ m.happy ∧ c.type ∉ m.dependents) ∧
      others.Pairwise fun c d => Text.utf8 c.type ≤ Text.utf8 d.type) ∧
    (∀ t, m.sort.ofType t = m.ofType t) ∧ m.sort.sort = m.sort := by
  let rest := m.sort.conditions.filter fun c => !(c.type == m.happy)
  let declared := rest.filter fun c => m.dependents.contains c.type
  let others := rest.filter fun c => !m.dependents.contains c.type
  have hsorted : rest.Pairwise fun c d => m.placed c d = true := m.sort_sorted.filter _
  have hrest : ∀ c ∈ rest, c.type ≠ m.happy := by
    intro c hc
    simpa using (List.mem_filter.mp hc).2
  have hdeclared : ∀ c ∈ declared, c.type ≠ m.happy ∧ c.type ∈ m.dependents := by
    intro c hc
    obtain ⟨hmem, hdep⟩ := List.mem_filter.mp hc
    exact ⟨hrest c hmem, List.contains_iff_mem.mp hdep⟩
  have hothers : ∀ c ∈ others, c.type ≠ m.happy ∧ c.type ∉ m.dependents := by
    intro c hc
    obtain ⟨hmem, hnot⟩ := List.mem_filter.mp hc
    exact ⟨hrest c hmem, by simpa using hnot⟩
  refine ⟨m.sort_perm, ⟨declared, others, ?_, fun c hc => (hdeclared c hc).2, ?_, hothers, ?_⟩, m.sort_filter_type,
    m.sort_sort⟩
  · rw [← dependents_first hsorted hrest]
    exact m.sort_happy_first
  · refine (hsorted.filter _).imp_of_mem fun {c d} hc hd hcd => ?_
    exact idxOf_le_of_placed (hdeclared c hc).1 (hdeclared d hd).1 hcd
  · refine (hsorted.filter _).imp_of_mem fun {c d} hc hd hcd => ?_
    exact Text.utf8_le_iff.mpr (type_le_of_placed (hothers c hc) (hothers d hd) hcd)

example :
    let conditions := ["D", "B", "C", "Z", "A"].map fun t => { type := t, status := .true }
    (sort ⟨"Z", ["C", "A"], conditions, by decide⟩).conditions.map (·.type) = ["Z", "C", "A", "B", "D"] := by cbv

end Manager

end PlatformOperator
