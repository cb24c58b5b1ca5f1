import Mathlib.Data.List.Sort
import PlatformOperator.Proofs.Condition.Distinct

/-! Which dependents decide what the happy condition says: of those of the worst status the ones with the latest
    transition. Where several tie, the first of them in the list gives reason and message, so these can change with the
    order of the conditions. The status cannot. -/

namespace PlatformOperator

/-- Why the status is what it is. -/
def Condition.account (c : Condition) : Option String × Option String := (c.reason, c.message)

theorem leads_perm {α : Type} {r : α → α → Bool} {p : α → Bool} {l l' : List α} (h : l'.Perm l) :
    leads r p l' = leads r p l := by
  funext a
  rw [Bool.eq_iff_iff, leads_iff, leads_iff]
  simp only [h.mem_iff]

namespace Manager
variable {m : Manager} {c d top : Condition} {clock : Clock} {t : String} {s : ConditionStatus}

/-- The condition bears on the happy one and has status `s`. -/
def bears (m : Manager) (s : ConditionStatus) (c : Condition) : Bool :=
  m.isDependent c.type && c.severity == .error && c.status == s

/-- The conditions that bear on the happy one with status `s` and made the latest transition, in their order. -/
def latest (m : Manager) (s : ConditionStatus) : List Condition :=
  m.conditions.filter (leads notEarlier (m.bears s) m.conditions)

/-- The conditions that decide: the latest that are False, else the latest that are Unknown. -/
def deciding (m : Manager) : List Condition := if m.latest .false = [] then m.latest .unknown else m.latest .false

theorem status_of_latest (h : c ∈ m.latest s) : c.status = s := by
  have hbears := (leads_iff.mp (List.mem_filter.mp h).2).1
  simp only [bears, Bool.and_eq_true, beq_iff_eq] at hbears
  exact hbears.2

/-- Those that decide agree on the status, which is not True. -/
theorem status_of_deciding (hc : c ∈ m.deciding) : c.status ≠ .true ∧ ∀ d ∈ m.deciding, d.status = c.status := by
  obtain ⟨s, hs, hlatest⟩ : ∃ s : ConditionStatus, s ≠ .true ∧ m.deciding = m.latest s := by
    unfold deciding
    split
    · exact ⟨.unknown, by decide, rfl⟩
    · exact ⟨.false, by decide, rfl⟩
  rw [hlatest] at hc ⊢
  rw [status_of_latest hc]
  exact ⟨hs, fun d hd => status_of_latest hd⟩

theorem find?_candidates (m : Manager) (s : ConditionStatus) :
    m.candidates.find? (·.status == s) = (m.latest s).head? := by
  unfold candidates latest
  rw [find?_mergeSort notEarlier_trans notEarlier_total, List.find?_filter, List.head?_filter]
  congr 1
  funext c
  rw [Bool.eq_iff_iff, decide_eq_true_eq, leads_iff, leads_iff]
  simp only [bears, Bool.and_eq_true, List.mem_filter]
  constructor
  · rintro ⟨hdep, hs, hlast⟩
    exact ⟨⟨hdep, hs⟩, fun d hd hbears => hlast d ⟨hd, hbears.1⟩ hbears.2⟩
  · rintro ⟨⟨hdep, hs⟩, hlast⟩
    exact ⟨hdep, hs, fun d hd hds => hlast d hd.1 ⟨hd.2, hds⟩⟩

/-- The first of those that decide is the unhappy dependent. -/
theorem unhappy?_eq_head? (m : Manager) : m.unhappy? = m.deciding.head? := by
  unfold unhappy? deciding
  rw [find?_candidates, find?_candidates]
  cases m.latest .false with
  | nil => rfl
  | cons c cs => rfl

/-! ### After a sort -/

/-- Conditions of distinct types have one sorted order. -/
theorem Distinct.filter_sort (h : m.Distinct) (p : Condition → Bool) :
    m.sort.conditions.filter p = (m.conditions.filter p).mergeSort m.placed := by
  have hperm : (m.sort.conditions.filter p).Perm ((m.conditions.filter p).mergeSort m.placed) :=
    (m.sort_perm.filter p).trans (List.mergeSort_perm _ _).symm
  refine hperm.eq_of_pairwise (fun c d hc hd hcd hdc => ?_) (m.sort_sorted.filter p)
    (List.pairwise_mergeSort placed_trans placed_total _)
  have hc : c ∈ m.conditions := m.sort_perm.mem_iff.mp (List.mem_filter.mp hc).1
  have hd : d ∈ m.conditions := (List.mem_filter.mp (List.mem_mergeSort.mp hd)).1
  have htype : c.type = d.type := by
    rw [placed_iff] at hcd hdc
    rcases hcd with hcd | ⟨hrank, hcd⟩ <;> rcases hdc with hdc | ⟨hrank', hdc⟩
    · exact absurd hdc (Nat.lt_asymm hcd)
    · exact absurd hrank' (Nat.ne_of_gt hcd)
    · exact absurd hrank (Nat.ne_of_gt hdc)
    · exact String.le_antisymm hcd hdc
  exact List.inj_on_of_nodup_map h hc hd htype

theorem Distinct.latest_sort (h : m.Distinct) (s : ConditionStatus) :
    m.sort.latest s = (m.latest s).mergeSort m.placed := by
  have hleads : leads notEarlier (m.sort.bears s) m.sort.conditions = leads notEarlier (m.bears s) m.conditions :=
    leads_perm m.sort_perm
  unfold latest
  rw [hleads, h.filter_sort]

/-- After a sort the same conditions decide, in the order of their places. -/
theorem Distinct.deciding_sort (h : m.Distinct) : m.sort.deciding = m.deciding.mergeSort m.placed := by
  unfold deciding
  rw [h.latest_sort, h.latest_sort]
  by_cases hnone : m.latest .false = []
  · rw [hnone, List.mergeSort_nil, if_pos rfl, if_pos rfl]
  · have hsome : (m.latest .false).mergeSort m.placed ≠ [] := by
      rw [← List.length_pos_iff, List.length_mergeSort, List.length_pos_iff]
      exact hnone
    rw [if_neg hnone, if_neg hsome]

theorem Distinct.unhappy?_sort (h : m.Distinct) : m.sort.unhappy? = (m.deciding.mergeSort m.placed).head? := by
  rw [unhappy?_eq_head?, h.deciding_sort]

/-- A sort leaves someone unhappy just if someone was, and with the same status. -/
theorem Distinct.unhappy?_sort_cases (h : m.Distinct) :
    (m.unhappy? = none ∧ m.sort.unhappy? = none) ∨
      ∃ c ∈ m.deciding, ∃ d ∈ m.deciding, m.unhappy? = some c ∧ m.sort.unhappy? = some d := by
  rw [h.unhappy?_sort, unhappy?_eq_head?]
  cases hfirst : m.deciding.head? with
  | none =>
    left
    rw [List.head?_eq_none_iff.mp hfirst, List.mergeSort_nil]
    exact ⟨rfl, rfl⟩
  | some c =>
    right
    have hc : c ∈ m.deciding := List.mem_of_head? hfirst
    have hsorted : m.deciding.mergeSort m.placed ≠ [] := by
      intro hnil
      have hmem : c ∈ m.deciding.mergeSort m.placed := List.mem_mergeSort.mpr hc
      rw [hnil] at hmem
      cases hmem
    obtain ⟨d, ds, hd⟩ := List.exists_cons_of_ne_nil hsorted
    refine ⟨c, hc, d, ?_, rfl, by rw [hd, List.head?_cons]⟩
    have hmem : d ∈ m.deciding.mergeSort m.placed := hd ▸ List.mem_cons_self
    exact List.mem_mergeSort.mp hmem

/-! ### The happy condition after a sort -/

theorem recompute_of_unhappy (h : m.unhappy? = some c) (clock : Clock) :
    ∃ d, (m.recompute t clock).1.top? = some d ∧ d.status = c.status ∧ d.account = c.account := by
  have hentailed : m.entailed? t =
      some { type := m.happy, status := c.status, reason := c.reason, message := c.message } := by
    rw [entailed?, h]
  obtain ⟨d, hd, hsame⟩ := recompute_top? hentailed clock
  obtain ⟨hstatus, hreason, hmessage⟩ := Condition.said_of_timeless hsame
  exact ⟨d, hd, hstatus, Prod.ext hreason hmessage⟩

/-- Where nobody is unhappy, a sort makes no difference. -/
theorem recompute_sort_of_content (h : m.unhappy? = none) (hsort : m.sort.unhappy? = none) (clock clock' : Clock) :
    (m.sort.recompute t clock').1.top?.map Condition.timeless =
      (m.recompute t clock).1.top?.map Condition.timeless := by
  have hentailed : m.sort.entailed? t = m.entailed? t := by
    rw [entailed?, entailed?, h, hsort]
    rfl
  cases hnew : m.entailed? t with
  | none =>
    rw [recompute_of_none hnew, recompute_of_none (hentailed.trans hnew)]
    exact congrArg _ (m.sort_condition? m.happy)
  | some top =>
    obtain ⟨d, hd, hsame⟩ := recompute_top? hnew clock
    obtain ⟨d', hd', hsame'⟩ := recompute_top? (hentailed.trans hnew) clock'
    rw [hd, hd', Option.map_some, Option.map_some, hsame, hsame']

/-- After a sort the happy condition is recomputed to the same status. Reason and message are the same as well where the
    conditions that decide give the same, and in general just if the first of them in either order does. -/
theorem recompute_sort (m : Manager) (h : m.Distinct) (clock clock' : Clock) :
    let before := (m.recompute "" clock).1.top?
    let after := (m.sort.recompute "" clock').1.top?
    after.map (·.status) = before.map (·.status) ∧
      ((∀ c ∈ m.deciding, ∀ d ∈ m.deciding, c.account = d.account) →
        after.map Condition.account = before.map Condition.account) ∧
      (after.map Condition.account = before.map Condition.account ↔
        (m.deciding.mergeSort m.placed).head?.map Condition.account = m.deciding.head?.map Condition.account) := by
  intro before after
  rw [← h.unhappy?_sort, ← m.unhappy?_eq_head?]
  rcases h.unhappy?_sort_cases with ⟨hnone, hsort⟩ | ⟨c, hc, d, hd, hsome, hsort⟩
  · have htimeless : after.map Condition.timeless = before.map Condition.timeless :=
      recompute_sort_of_content hnone hsort clock clock'
    have hsame {α : Type} (view : Condition → α) : after.map (view ∘ Condition.timeless) =
        before.map (view ∘ Condition.timeless) := by
      rw [← Option.map_map, htimeless, Option.map_map]
    rw [hnone, hsort]
    exact ⟨hsame (·.status), fun _ => hsame Condition.account, fun _ => rfl, fun _ => hsame Condition.account⟩
  · obtain ⟨top, htop, hstatus, haccount⟩ := recompute_of_unhappy hsome clock
    obtain ⟨top', htop', hstatus', haccount'⟩ := recompute_of_unhappy hsort clock'
    have hbefore : before = some top := htop
    have hafter : after = some top' := htop'
    simp only [hbefore, hafter, hsome, hsort, Option.map_some, Option.some.injEq, hstatus, hstatus', haccount,
      haccount']
    exact ⟨(status_of_deciding hc).2 d hd, fun hsame => hsame d hd c hc, trivial⟩

namespace Sample

def down (t : String) (second : Int) : Condition :=
  { type := t, status := .false, reason := some (t ++ "Down"), lastTransitionTime := some ⟨second, 0⟩ }

/-- Two dependents are down, `Frontend` is stored first. -/
def down₂ (frontend backend : Int) : Manager where
  happy := "Ready"
  dependents := ["Backend", "Frontend"]
  conditions := [{ type := "Ready", status := .unknown }, down "Frontend" frontend, down "Backend" backend]
  happy_not_mem := by decide

end Sample

open Sample in
theorem recompute_sort_sample :
    (down₂ 20 10).Distinct ∧ (∀ c ∈ (down₂ 20 10).deciding, ∀ d ∈ (down₂ 20 10).deciding, c.account = d.account) ∧
      ((down₂ 20 10).sort.recompute "" ⟨5⟩).1.top?.map Condition.account =
        ((down₂ 20 10).recompute "" ⟨0⟩).1.top?.map Condition.account := by
  have hdistinct : (down₂ 20 10).Distinct := by
    unfold Distinct
    decide
  have hone : ∀ c ∈ (down₂ 20 10).deciding, ∀ d ∈ (down₂ 20 10).deciding, c.account = d.account := by decide +kernel
  exact ⟨hdistinct, hone, (recompute_sort (down₂ 20 10) hdistinct ⟨0⟩ ⟨5⟩).2.1 hone⟩

open Sample in
/-- Of two dependents that went down at once, the sort puts the other one first. -/
theorem recompute_sort_moves_account :
    (down₂ 10 10).Distinct ∧
      ((down₂ 10 10).recompute "" ⟨0⟩).1.top?.map Condition.account = some (some "FrontendDown", none) ∧
      ((down₂ 10 10).sort.recompute "" ⟨0⟩).1.top?.map Condition.account = some (some "BackendDown", none) := by
  have hdistinct : (down₂ 10 10).Distinct := by
    unfold Distinct
    decide
  have hbefore : (down₂ 10 10).unhappy? = some (down "Frontend" 10) := by
    rw [unhappy?_eq_head?]
    decide +kernel
  have hafter : (down₂ 10 10).sort.unhappy? = some (down "Backend" 10) := by
    rw [hdistinct.unhappy?_sort, head?_mergeSort placed_trans placed_total]
    decide +kernel
  obtain ⟨top, htop, -, htold⟩ := recompute_of_unhappy (t := "") hbefore ⟨0⟩
  obtain ⟨top', htop', -, htold'⟩ := recompute_of_unhappy (t := "") hafter ⟨0⟩
  refine ⟨hdistinct, ?_, ?_⟩
  · rw [htop, Option.map_some, htold]
    decide +kernel
  · rw [htop', Option.map_some, htold']
    decide +kernel

end Manager
end PlatformOperator
