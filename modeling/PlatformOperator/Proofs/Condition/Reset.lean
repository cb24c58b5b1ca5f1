import PlatformOperator.Proofs.Condition.Deciding
import PlatformOperator.Proofs.Condition.Mirror
import PlatformOperator.Proofs.Condition.Provenance
import PlatformOperator.Proofs.Condition.Settled

/-! What a reset leaves: the happy condition and the declared dependents, those that were stored as they were, and
    nothing to do for a second reset. The happy condition is as its dependents entail it, unless none is declared and it
    told of a condition that the reset dropped: nothing puts it in line then. -/

namespace PlatformOperator

namespace Manager
variable {m m' : Manager} {c d top : Condition} {clock : Clock} {t : String} {ts : List String}
  {status : ConditionStatus}

/-! ### What is added -/

/-- The conditions of the declared dependents. -/
def dependentConditions (m : Manager) : List Condition := m.conditions.filter fun c => m.dependents.contains c.type

/-- Of conditions, `others'` are the former ones and, behind them, ones of missing types among `ts`. -/
def Extends (m : Manager) (ts : List String) (others' : List Condition) : Prop :=
  ∃ added, others' = m.others ++ added ∧ ∀ d ∈ added, d.type ∈ ts ∧ m.condition? d.type = none

theorem others_set_of_none (hne : c.type ≠ m.happy) (hnone : m.condition? c.type = none) (clock : Clock) :
    ∃ d, d.type = c.type ∧ (m.set c clock).1.others = m.others ++ [d] := by
  refine ⟨{ c with lastTransitionTime := some (c.lastTransitionTime.getD clock.next) }, rfl, ?_⟩
  rw [others_set, others, store_conditions_of_none hnone, List.filter_append]
  congr 1
  exact List.filter_cons_of_pos (bne_iff_ne.mpr hne)

theorem addMissing_extends (hts : m.happy ∉ ts) (status : ConditionStatus) (clock : Clock) :
    m.Extends ts (m.addMissing status ts clock).1.others := by
  induction ts generalizing m clock with
  | nil => exact ⟨[], (List.append_nil _).symm, fun d hd => absurd hd List.not_mem_nil⟩
  | cons t ts ih =>
    obtain ⟨hne, hrest⟩ : m.happy ≠ t ∧ m.happy ∉ ts := by simpa using hts
    rw [addMissing_cons]
    split
    · obtain ⟨added, hadded, hnew⟩ := ih hrest clock
      exact ⟨added, hadded, fun d hd => ⟨List.mem_cons_of_mem t (hnew d hd).1, (hnew d hd).2⟩⟩
    · rename_i hmissing
      have hnone : m.condition? t = none := by simpa using hmissing
      obtain ⟨c, hc, hfirst⟩ := others_set_of_none (c := { type := t, status }) hne.symm hnone clock
      obtain ⟨hhappy, -⟩ := sameTypes_set { type := t, status } m clock
      obtain ⟨added, hadded, hnew⟩ := ih (m := (m.set { type := t, status } clock).1) (hhappy ▸ hrest) _
      refine ⟨c :: added, ?_, fun d hd => ?_⟩
      · rw [hadded, hfirst, List.append_assoc, List.singleton_append]
      rcases List.mem_cons.mp hd with rfl | hd
      · exact ⟨hc ▸ List.mem_cons_self, hc ▸ hnone⟩
      -- What the later ones miss was missing before, since nothing is dropped.
      · obtain ⟨hmem, hmissed⟩ := hnew d hd
        have hdne : d.type ≠ m.happy := fun heq => hrest (heq ▸ hmem)
        rw [condition?_of_ne (hhappy ▸ hdne), hfirst, List.find?_append, Option.or_eq_none_iff,
          ← condition?_of_ne hdne] at hmissed
        exact ⟨List.mem_cons_of_mem t hmem, hmissed.1⟩

theorem complete_of_top (htop : m.top? = some top) (clock : Clock) :
    m.complete clock = m.addMissing (if top.status = .true then .true else .unknown) m.dependents clock := by
  rw [complete, htop]

theorem Trim.others_eq (h : m.Trim) : m.others = m.dependentConditions := by
  unfold others dependentConditions
  apply List.filter_congr
  intro c hc
  have hnot := m.happy_not_mem
  rcases h c.type (List.mem_map_of_mem hc) with hhappy | hdep
  · simp [hhappy, hnot]
  · have hne : c.type ≠ m.happy := fun heq => hnot (heq ▸ hdep)
    simp [hne, hdep]

theorem dependentConditions_trimmed (m : Manager) : m.trimmed.dependentConditions = m.dependentConditions := by
  unfold dependentConditions trimmed
  rw [List.filter_filter]
  apply List.filter_congr
  intro c _
  cases hdep : m.dependents.contains c.type with
  | true => simp
  | false => rfl

/-- With the happy condition in place, a reset keeps the stored dependents as they are and in their order, and puts the
    missing ones behind them. -/
theorem dependentConditions_reset (htop : m.top? = some top) (clock : Clock) :
    ∃ added, (m.reset clock).1.dependentConditions = m.dependentConditions ++ added ∧
      ∀ d ∈ added, m.condition? d.type = none := by
  have htop : m.trimmed.top? = some top := m.trimmed_top?.trans htop
  rw [← (reset_trim m clock).others_eq, ← dependentConditions_trimmed, ← m.trimmed_trim.others_eq, reset_eq,
    complete_of_top htop]
  obtain ⟨added, hadded, hnew⟩ := addMissing_extends m.trimmed.happy_not_mem _ clock
  refine ⟨added, hadded, fun d hd => ?_⟩
  obtain ⟨hdep, hnone⟩ := hnew d hd
  have hdep : m.dependents.contains d.type = true := List.contains_iff_mem.mpr hdep
  rw [trimmed_condition?, hdep, Bool.or_true, if_pos rfl] at hnone
  exact hnone

/-! ### The types -/

theorem mem_types_reset (m : Manager) (clock : Clock) :
    t ∈ (m.reset clock).1.types ↔ t = m.happy ∨ t ∈ m.dependents := by
  obtain ⟨hhappy, hdeps⟩ := sameTypes_reset m clock
  constructor
  · intro ht
    have htrim := reset_trim m clock t ht
    rwa [hhappy, hdeps] at htrim
  · intro ht
    exact complete_complete m.trimmed clock t (by rwa [← reset_eq, hhappy, hdeps])

theorem reset_again (m : Manager) (clock clock' : Clock) :
    (m.reset clock).1.reset clock' = ((m.reset clock).1, clock') :=
  reset_eq_self (complete_complete m.trimmed clock) (reset_trim m clock) clock'

/-! ### The happy condition -/

/-- The happy condition stands as the others entail it. -/
def Abides (m : Manager) : Prop := ∀ top, m.entailed? "" = some top → m.Stands top

/-- A look without a change asks for nothing, or for what a look after a change of another type does. -/
theorem entailed?_look (h : m.entailed? "" = some top) (ht : t ≠ m.happy) : m.entailed? t = some top := by
  unfold entailed? at *
  cases hunhappy : m.unhappy? with
  | some c =>
    rw [hunhappy] at h
    exact h
  | none =>
    rw [hunhappy] at h
    dsimp only at *
    split at h
    · cases h
    · rwa [if_neg ht]

theorem aligned_abides (ht : t ≠ m.happy) (now : Timestamp) : (m.aligned t now).Abides := by
  obtain ⟨top, htop⟩ := entailed?_of_ne ht
  have haligned : m.aligned t now = (m.store top now).2 := by rw [aligned, htop]
  have htype : top.type = m.happy := entailed?_type htop
  intro top' htop'
  rw [haligned, entailed?_store_happy htype] at htop'
  cases htop.symm.trans (entailed?_look htop' ht)
  rw [haligned]
  exact store_condition? top now m

theorem set_abides (hc : c.type ≠ m.happy) (clock : Clock) : (m.set c clock).1 = m ∨ (m.set c clock).1.Abides := by
  rw [set_fst]
  split
  · exact .inr (aligned_abides (m := (m.store c clock.next).2) hc _)
  · exact .inl rfl

/-- What is added puts the happy condition in line, if anything is. -/
theorem addMissing_abides (hts : m.happy ∉ ts) (status : ConditionStatus) (clock : Clock) :
    (m.addMissing status ts clock).1 = m ∨ (m.addMissing status ts clock).1.Abides := by
  induction ts generalizing m clock with
  | nil => exact .inl rfl
  | cons t ts ih =>
    obtain ⟨hne, hrest⟩ : m.happy ≠ t ∧ m.happy ∉ ts := by simpa using hts
    obtain ⟨hhappy, -⟩ := sameTypes_set { type := t, status } m clock
    rw [addMissing_cons]
    split
    · exact ih hrest clock
    · rcases ih (m := (m.set { type := t, status } clock).1) (hhappy ▸ hrest) (m.set { type := t, status } clock).2
        with hkept | habides
      · rw [hkept]
        exact set_abides hne.symm clock
      · exact .inr habides

theorem reset_cases (htop : m.top? = some top) (clock : Clock) :
    (m.reset clock).1 = m.trimmed ∨ (m.reset clock).1.Abides := by
  rw [reset_eq, complete_of_top (m.trimmed_top?.trans htop)]
  exact addMissing_abides m.trimmed.happy_not_mem _ clock

theorem reset_of_no_dependents (hdeps : m.dependents = []) (htop : m.top? = some top) (clock : Clock) :
    (m.reset clock).1 = m.trimmed := by
  have hnone : m.trimmed.dependents = [] := hdeps
  rw [reset_eq, complete_of_top (m.trimmed_top?.trans htop), hnone]
  rfl

/-- As far as `view` tells, the happy condition is there and is the one that a look without a change would derive. -/
def Derived {α : Type} (view : Condition → α) (m : Manager) : Prop :=
  ∃ top, m.top? = some top ∧ ∀ clock, (m.recompute "" clock).1.top?.map view = some (view top)

section
variable {α : Type} {view : Condition → α}

theorem Abides.derived (h : m.Abides) (htop : m.top? = some top) : m.Derived view := by
  refine ⟨top, htop, fun clock => ?_⟩
  rw [recompute_eq_self h clock, htop, Option.map_some]

/-- What is derived depends on the present happy condition and on what the others entail. -/
theorem recompute_top?_congr (hhappy : m'.happy = m.happy) (htop : m'.top? = m.top?)
    (hentailed : m'.entailed? t = m.entailed? t) (clock : Clock) :
    (m'.recompute t clock).1.top? = (m.recompute t clock).1.top? := by
  cases hnew : m.entailed? t with
  | none =>
    rw [recompute_of_none hnew, recompute_of_none (hentailed.trans hnew)]
    exact htop
  | some new =>
    have htype : new.type = m.happy := entailed?_type hnew
    rw [recompute_fst, recompute_fst, aligned, aligned, hentailed, hnew]
    show (m'.store new clock.next).2.condition? m'.happy = (m.store new clock.next).2.condition? m.happy
    rw [hhappy, ← htype]
    have htop : m'.condition? new.type = m.condition? new.type := by
      have hsame : m'.condition? m'.happy = m.condition? m.happy := htop
      rwa [hhappy, ← htype] at hsame
    cases hold : m.condition? new.type with
    | none => rw [store_condition?_of_none hold, store_condition?_of_none (htop.trans hold)]
    | some old => rw [store_condition?_of_some hold, store_condition?_of_some (htop.trans hold)]

theorem Derived.trimmed (h : m.Derived view) (hentailed : m.trimmed.entailed? "" = m.entailed? "") :
    m.trimmed.Derived view := by
  obtain ⟨top, htop, hsame⟩ := h
  refine ⟨top, m.trimmed_top?.trans htop, fun clock => ?_⟩
  have hhappy : m.trimmed.happy = m.happy := rfl
  rw [recompute_top?_congr hhappy m.trimmed_top? hentailed clock]
  exact hsame clock

/-- The happy condition has the status that a look would derive. -/
theorem Derived.status_eq (h : m.Derived view) (hview : ∀ c d, view c = view d → c.status = d.status)
    (htop : m.top? = some top) (hentailed : m.entailed? "" = some d) : top.status = d.status := by
  obtain ⟨top', htop', hsame⟩ := h
  cases htop.symm.trans htop'
  obtain ⟨new, hnew, htimeless⟩ := recompute_top? hentailed ⟨0⟩
  have hderived := hsame ⟨0⟩
  rw [hnew, Option.map_some, Option.some.injEq] at hderived
  exact (hview _ _ hderived).symm.trans (Condition.said_of_timeless htimeless).1

end

/-! ### What a reset drops -/

theorem candidates_trimmed (hdeps : m.dependents ≠ []) : m.trimmed.candidates = m.candidates := by
  have hfilter : m.trimmed.conditions.filter (fun c => m.isDependent c.type && c.severity == .error) =
      m.conditions.filter fun c => m.isDependent c.type && c.severity == .error := by
    unfold trimmed
    rw [List.filter_filter]
    apply List.filter_congr
    intro c _
    unfold isDependent
    rw [if_neg hdeps]
    cases m.dependents.contains c.type with
    | true => simp
    | false => rfl
  unfold candidates
  rw [← hfilter]
  rfl

/-- Without declared dependents nothing is left to be unhappy. -/
theorem unhappy?_trimmed (hdeps : m.dependents = []) : m.trimmed.unhappy? = none := by
  have hnone : m.trimmed.candidates = [] := by
    refine List.eq_nil_iff_forall_not_mem.mpr fun c hc => ?_
    obtain ⟨hmem, hdep, -⟩ := mem_candidates.mp hc
    rcases m.trimmed_trim c.type (List.mem_map_of_mem hmem) with hhappy | hdecl
    · exact isDependent_ne hdep hhappy
    · have hdecl : c.type ∈ m.dependents := hdecl
      rw [hdeps] at hdecl
      cases hdecl
  unfold unhappy?
  rw [hnone]
  rfl

theorem entailed?_trimmed (h : m.dependents ≠ [] ∨ m.unhappy? = none) : m.trimmed.entailed? t = m.entailed? t := by
  have hunhappy : m.trimmed.unhappy? = m.unhappy? := by
    by_cases hdeps : m.dependents = []
    · rw [unhappy?_trimmed hdeps, h.resolve_left (absurd hdeps)]
    · unfold unhappy?
      rw [candidates_trimmed hdeps]
  unfold entailed?
  rw [hunhappy]
  rfl

section
variable {α : Type} {view : Condition → α}

/-- Where the reset drops nothing that the happy condition follows, that stays as it is derived. -/
theorem Derived.reset (h : m.Derived view) (hkeeps : m.dependents ≠ [] ∨ m.unhappy? = none) (clock : Clock) :
    (m.reset clock).1.Derived view := by
  obtain ⟨top, htop, -⟩ := id h
  rcases reset_cases htop clock with hkept | habides
  · rw [hkept]
    exact h.trimmed (entailed?_trimmed hkeeps)
  · obtain ⟨top', htop'⟩ := mem_types_iff.mp ((mem_types_reset m clock).mpr (.inl rfl))
    obtain ⟨hhappy, -⟩ := sameTypes_reset m clock
    rw [← hhappy] at htop'
    exact habides.derived htop'

/-- A happy type that is empty is taken for the one that changed, so it is derived from unhappy dependents only. -/
theorem Derived.reset_of_happy_empty (htop : m.top? = some top) (hdeps : m.dependents = []) (hempty : m.happy = "")
    (clock : Clock) : (m.reset clock).1.Derived view := by
  have hentailed : m.trimmed.entailed? "" = none := by
    rw [entailed?, unhappy?_trimmed hdeps]
    exact if_pos hempty.symm
  rw [reset_of_no_dependents hdeps htop]
  refine ⟨top, m.trimmed_top?.trans htop, fun clock => ?_⟩
  rw [recompute_of_none hentailed, m.trimmed_top?, htop, Option.map_some]

/-- Once the conditions are dropped that it followed, the happy condition would be True, but it told of one that was
    not. -/
theorem Derived.not_reset (hview : ∀ c d, view c = view d → c.status = d.status) (h : m.Derived view)
    (hdeps : m.dependents = []) (hunhappy : m.unhappy? = some c) (hnamed : m.happy ≠ "") (clock : Clock) :
    ¬(m.reset clock).1.Derived view := by
  obtain ⟨top, htop, -⟩ := id h
  intro hafter
  rw [reset_of_no_dependents hdeps htop] at hafter
  have hbefore : top.status = c.status :=
    h.status_eq (d := { type := m.happy, status := c.status, reason := c.reason, message := c.message }) hview htop
      (by rw [entailed?, hunhappy])
  have htrue : top.status = .true := by
    refine hafter.status_eq (d := { type := m.happy, status := .true }) hview (m.trimmed_top?.trans htop) ?_
    rw [entailed?, unhappy?_trimmed hdeps]
    exact if_neg hnamed.symm
  obtain ⟨-, hworst, -⟩ := unhappy?_eq_some hunhappy
  rw [← hbefore, htrue] at hworst
  simp at hworst

end

/-- A reset leaves just one condition of the happy type and of each declared dependent, and those of dependents that
    were stored as they were and in their order; a second reset changes nothing. If the happy condition was as its
    dependents entail it, it is so again, unless none is declared and something was unhappy. -/
theorem reset_clean {α : Type} (view : Condition → α) (hview : ∀ c d, view c = view d → c.status = d.status)
    (m : Manager) (clock : Clock) (hdistinct : m.Distinct) (hderived : m.Derived view) :
    let m' := (m.reset clock).1
    (m'.Distinct ∧ ∀ t, t ∈ m'.types ↔ t = m.happy ∨ t ∈ m.dependents) ∧
      (∃ added, m'.dependentConditions = m.dependentConditions ++ added ∧ ∀ d ∈ added, m.condition? d.type = none) ∧
      (m'.Derived view ↔ m.dependents ≠ [] ∨ m.unhappy? = none ∨ m.happy = "") ∧
      ∀ clock', m'.reset clock' = (m', clock') := by
  intro m'
  obtain ⟨top, htop, -⟩ := id hderived
  refine ⟨⟨hdistinct.reset clock, fun t => mem_types_reset m clock⟩, dependentConditions_reset htop clock, ?_,
    reset_again m clock⟩
  constructor
  · intro hafter
    by_contra hnone
    simp only [not_or, ne_eq, not_not, Option.ne_none_iff_exists'] at hnone
    obtain ⟨hdeps, ⟨c, hunhappy⟩, hnamed⟩ := hnone
    exact hderived.not_reset hview hdeps hunhappy hnamed clock hafter
  · intro hkeeps
    by_cases hdeps : m.dependents = []
    · rcases hkeeps with hsome | hcontent | hempty
      · exact absurd hdeps hsome
      · exact hderived.reset (.inr hcontent) clock
      · exact .reset_of_happy_empty htop hdeps hempty clock
    · exact hderived.reset (.inl hdeps) clock

namespace Sample

/-- The happy condition of a manager whose `Backend` is down. -/
def told : Condition := { type := "Ready", status := .false, message := some "down" }

/-- `Ready` tells that `Backend` is down. `Frontend` is missing and `Cache` is of no dependent. -/
def tells (dependents : List String) (h : "Ready" ∉ dependents) : Manager where
  happy := "Ready"
  dependents := dependents
  conditions := [told, { told with type := "Backend" }, { type := "Cache", status := .true }]
  happy_not_mem := h

theorem tells_distinct (dependents : List String) (h : "Ready" ∉ dependents) : (tells dependents h).Distinct := by
  show ["Ready", "Backend", "Cache"].Nodup
  decide

theorem tells_unhappy (dependents : List String) (h : "Ready" ∉ dependents)
    (hfirst : (tells dependents h).deciding.head? = some { told with type := "Backend" }) :
    (tells dependents h).unhappy? = some { told with type := "Backend" } := by
  rw [unhappy?_eq_head?, hfirst]

theorem tells_derived {α : Type} (view : Condition → α) {dependents : List String} {h : "Ready" ∉ dependents}
    (hunhappy : (tells dependents h).unhappy? = some { told with type := "Backend" }) :
    (tells dependents h).Derived view := by
  have htop : (tells dependents h).top? = some told := rfl
  refine Abides.derived (fun top hnew => ?_) htop
  rw [entailed?, hunhappy] at hnew
  cases hnew
  exact ⟨told, htop, rfl⟩

end Sample

open Sample in
theorem reset_clean_sample :
    ((tells ["Frontend", "Backend"] (by decide)).reset ⟨0⟩).1.Derived id ∧
      ∀ t, t ∈ ((tells ["Frontend", "Backend"] (by decide)).reset ⟨0⟩).1.types ↔
        t = "Ready" ∨ t ∈ ["Frontend", "Backend"] := by
  have hderived : (tells ["Frontend", "Backend"] (by decide)).Derived id :=
    tells_derived id (tells_unhappy _ _ (by decide +kernel))
  obtain ⟨⟨-, htypes⟩, -, hafter, -⟩ := reset_clean id (fun c d h => congrArg _ h) _ ⟨0⟩ (tells_distinct _ _) hderived
  exact ⟨hafter.mpr (.inl (by decide)), htypes⟩

open Sample in
/-- Without declared dependents the reset drops what the happy condition tells of, but not the happy condition. -/
theorem reset_keeps_dropped_status :
    (tells [] (by decide)).Distinct ∧ (tells [] (by decide)).Derived id ∧
      ¬((tells [] (by decide)).reset ⟨0⟩).1.Derived (·.status) := by
  have hunhappy := tells_unhappy [] (by decide) (by decide +kernel)
  refine ⟨tells_distinct _ _, tells_derived id hunhappy, ?_⟩
  exact Derived.not_reset (fun _ _ h => h) (tells_derived _ hunhappy) rfl hunhappy (by decide) ⟨0⟩

end Manager
end PlatformOperator
