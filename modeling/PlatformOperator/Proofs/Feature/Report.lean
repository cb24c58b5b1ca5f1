import PlatformOperator.Proofs.Status
import PlatformOperator.Tracker.Status

/-! What is reported in the status of a tracker: the reported conditions take the place of earlier ones of their types,
    and all others stay as they were. -/

namespace PlatformOperator

namespace TrackerStatus
variable {c d : Condition} {cs : List Condition} {clock : Clock} {t phase message : String} {step : ApplyStep}
  {statuses : List (String × ConditionStatus)} {s : TrackerStatus}

/-- The condition that a report makes of a type and its status. -/
def reportedCondition (step : ApplyStep) (message : String) (p : String × ConditionStatus) : Condition :=
  { type := p.1, status := p.2, reason := some step.text, message := some message }

/-- Puts the conditions in the places of those of their types, one after another. -/
def upsertAll : List Condition → List Condition → StateM Clock (List Condition)
  | [], cs => pure cs
  | d :: ds, cs => do upsertAll ds (← upsertIn d cs)

theorem report_eq (s : TrackerStatus) (phase : String) (step : ApplyStep) (message : String)
    (statuses : List (String × ConditionStatus)) (clock : Clock) :
    let reported := upsertAll (statuses.map (reportedCondition step message)) s.conditions clock
    s.report phase step message statuses clock = (⟨some phase, reported.1⟩, reported.2) := by
  let put (cs : List Condition) (p : String × ConditionStatus) := upsertIn (reportedCondition step message p) cs
  have hfold (cs : List Condition) (clock : Clock) : statuses.foldlM put cs clock =
      upsertAll (statuses.map (reportedCondition step message)) cs clock := by
    induction statuses generalizing cs clock with
    | nil => rfl
    | cons p statuses ih =>
      rw [List.foldlM_cons]
      exact ih _ _
  rw [show s.report phase step message statuses clock = (⟨some phase, (statuses.foldlM put s.conditions clock).1⟩,
    (statuses.foldlM put s.conditions clock).2) from rfl, hfold]

theorem upsertIn_nil : upsertIn c [] clock = ([{ c with lastTransitionTime := some clock.next }], clock.tick) := rfl

/-- The condition has the time of the one it replaces, or that of the clock. -/
theorem upsertIn_of_eq (h : d.type = c.type) (cs : List Condition) (clock : Clock) :
    ∃ time clock', (time = d.lastTransitionTime ∧ clock' = clock ∨ time = some clock.next ∧ clock' = clock.tick) ∧
      upsertIn c (d :: cs) clock = ({ c with lastTransitionTime := time } :: cs, clock') := by
  by_cases hstatus : d.status = c.status
  · refine ⟨_, _, .inl ⟨rfl, rfl⟩, ?_⟩
    rw [upsertIn, if_pos h, if_pos hstatus]
    rfl
  · refine ⟨_, _, .inr ⟨rfl, rfl⟩, ?_⟩
    rw [upsertIn, if_pos h, if_neg hstatus]
    rfl

theorem upsertIn_of_ne (h : d.type ≠ c.type) :
    upsertIn c (d :: cs) clock = (d :: (upsertIn c cs clock).1, (upsertIn c cs clock).2) := by
  rw [upsertIn, if_neg h]
  rfl

theorem upsertIn_forward (c : Condition) (cs : List Condition) (clock : Clock) :
    clock.readings ≤ (upsertIn c cs clock).2.readings := by
  induction cs with
  | nil => exact Nat.le_succ _
  | cons d cs ih =>
    by_cases h : d.type = c.type
    · obtain ⟨_, clock', ⟨-, rfl⟩ | ⟨-, rfl⟩, hput⟩ := upsertIn_of_eq h cs clock <;> rw [hput]
      exact Nat.le_succ _
    · rw [upsertIn_of_ne h]
      exact ih

theorem upsertAll_forward (ds cs : List Condition) (clock : Clock) :
    clock.readings ≤ (upsertAll ds cs clock).2.readings := by
  induction ds generalizing cs clock with
  | nil => exact Nat.le_refl _
  | cons d ds ih => exact Nat.le_trans (upsertIn_forward d cs clock) (ih _ _)

/-! ### The first condition of a type -/

theorem upsertIn_find? (c : Condition) (cs : List Condition) (clock : Clock) :
    ∃ time, (upsertIn c cs clock).1.find? (·.type == c.type) = some { c with lastTransitionTime := time } := by
  induction cs with
  | nil => exact ⟨some clock.next, by simp [upsertIn_nil]⟩
  | cons d cs ih =>
    by_cases h : d.type = c.type
    · obtain ⟨time, clock', -, hput⟩ := upsertIn_of_eq h cs clock
      exact ⟨time, by rw [hput]; simp⟩
    · obtain ⟨time, hfound⟩ := ih
      refine ⟨time, ?_⟩
      rw [upsertIn_of_ne h, List.find?_cons_of_neg (by simpa using h), hfound]

theorem upsertIn_find?_of_ne (h : t ≠ c.type) (cs : List Condition) (clock : Clock) :
    (upsertIn c cs clock).1.find? (·.type == t) = cs.find? (·.type == t) := by
  induction cs with
  | nil =>
    rw [upsertIn_nil]
    simp [h.symm]
  | cons d cs ih =>
    by_cases hd : d.type = c.type
    · obtain ⟨time, clock', -, hput⟩ := upsertIn_of_eq hd cs clock
      rw [hput, List.find?_cons_of_neg (by simpa using h.symm), List.find?_cons_of_neg (by simpa [hd] using h.symm)]
    · rw [upsertIn_of_ne hd, List.find?_cons, List.find?_cons, ih]

theorem upsertAll_find?_of_not_mem {ds : List Condition} (h : t ∉ ds.map (·.type)) (cs : List Condition)
    (clock : Clock) : (upsertAll ds cs clock).1.find? (·.type == t) = cs.find? (·.type == t) := by
  induction ds generalizing cs clock with
  | nil => rfl
  | cons d ds ih =>
    rw [List.map_cons, List.mem_cons, not_or] at h
    exact (ih h.2 _ _).trans (upsertIn_find?_of_ne h.1 cs clock)

theorem upsertAll_find? {ds : List Condition} (hnodup : (ds.map (·.type)).Nodup) (hd : d ∈ ds) (cs : List Condition)
    (clock : Clock) :
    ∃ time, (upsertAll ds cs clock).1.find? (·.type == d.type) = some { d with lastTransitionTime := time } := by
  induction ds generalizing cs clock with
  | nil => cases hd
  | cons d₁ ds ih =>
    obtain ⟨hnot, hrest⟩ := List.nodup_cons.mp hnodup
    rcases List.mem_cons.mp hd with rfl | hd
    · obtain ⟨time, hfound⟩ := upsertIn_find? d cs clock
      exact ⟨time, (upsertAll_find?_of_not_mem hnot _ _).trans hfound⟩
    · exact ih hrest hd _ _

/-- For each of these types the first condition has the status given, the reason that goes with the step, and the
    message. -/
def Tells (conditions : List Condition) (statuses : List (String × ConditionStatus)) (step : ApplyStep)
    (message : String) : Prop :=
  ∀ p ∈ statuses, ∃ c, conditions.find? (·.type == p.1) = some c ∧ c.status = p.2 ∧ c.reason = some step.text ∧
    c.message = some message

theorem report_tells (hnodup : (statuses.map (·.1)).Nodup) (s : TrackerStatus) (phase : String) (step : ApplyStep)
    (message : String) (clock : Clock) :
    (s.report phase step message statuses clock).1.phase = some phase ∧
      Tells (s.report phase step message statuses clock).1.conditions statuses step message := by
  rw [report_eq]
  refine ⟨rfl, fun p hp => ?_⟩
  have htypes : (statuses.map (reportedCondition step message)).map (·.type) = statuses.map (·.1) := by
    rw [List.map_map]
    rfl
  obtain ⟨time, hfound⟩ := upsertAll_find? (htypes ▸ hnodup) (List.mem_map_of_mem hp) s.conditions clock
  exact ⟨_, hfound, rfl, rfl, rfl⟩

/-- What the status tells of an application that came to its end. -/
def TellsReady (feature : String) (s : TrackerStatus) : Prop :=
  s.phase = some Condition.phaseReady ∧ Tells s.conditions
    [(Condition.available, .true), (Condition.progressing, .false), (Condition.degraded, .false)]
    .featureCreated ("Applied feature [" ++ feature ++ "] successfully")

/-- What the status tells of an application that failed. -/
def TellsFailed (feature : String) (step : ApplyStep) (error : String) (s : TrackerStatus) : Prop :=
  s.phase = some Condition.phaseError ∧ Tells s.conditions
    [(Condition.available, .false), (Condition.progressing, .false), (Condition.degraded, .true)]
    step ("Failed applying [" ++ feature ++ "]: " ++ error)

theorem ready_tells (feature : String) (s : TrackerStatus) (clock : Clock) :
    (ready feature s clock).1.TellsReady feature :=
  report_tells (by decide) s _ _ _ clock

theorem failed_tells (feature : String) (step : ApplyStep) (error : String) (s : TrackerStatus) (clock : Clock) :
    (failed feature step error s clock).1.TellsFailed feature step error :=
  report_tells (by decide) s _ _ _ clock

end TrackerStatus
end PlatformOperator
