import Mathlib.Data.List.Induction
import PlatformOperator.Proofs.Condition.Distinct
import PlatformOperator.Proofs.Condition.Provenance
import PlatformOperator.Proofs.Feature.Report

/-! The status of a tracker as a machine. From no status on, whatever is noted in it and in which order: it has one
    condition of each type, the conditions tell of the latest notice, and each has the time of the latest notice that
    moved its status. -/

namespace PlatformOperator

namespace TrackerStatus
variable {c d : Condition} {cs ds : List Condition} {clock clock' : Clock} {t : String} {s : TrackerStatus}

/-! ### One report -/

theorem upsertIn_types (c : Condition) (cs : List Condition) (clock : Clock) :
    (upsertIn c cs clock).1.map (·.type) =
      if c.type ∈ cs.map (·.type) then cs.map (·.type) else cs.map (·.type) ++ [c.type] := by
  induction cs with
  | nil => rfl
  | cons old cs ih =>
    by_cases htype : old.type = c.type
    · obtain ⟨time, clock', -, hput⟩ := upsertIn_of_eq htype cs clock
      rw [hput]
      simp [htype]
    · rw [upsertIn_of_ne htype, List.map_cons, ih]
      by_cases hmem : c.type ∈ cs.map (·.type)
      · rw [if_pos hmem, List.map_cons, if_pos (List.mem_cons_of_mem _ hmem)]
      · have hnot : c.type ∉ (old :: cs).map (·.type) := by
          rw [List.map_cons, List.mem_cons, not_or]
          exact ⟨Ne.symm htype, hmem⟩
        rw [if_neg hmem, if_neg hnot]
        rfl

theorem upsertAll_nodup (h : (cs.map (·.type)).Nodup) (ds : List Condition) (clock : Clock) :
    ((upsertAll ds cs clock).1.map (·.type)).Nodup := by
  induction ds generalizing cs clock with
  | nil => exact h
  | cons d ds ih =>
    refine ih ?_ (upsertIn d cs clock).2
    rw [upsertIn_types]
    exact Manager.nodup_put h d.type

/-- The condition has the time of the one before it if that had the same status, else a time that the clock showed
    meanwhile. -/
def Timed (before : Option Condition) (clock : Clock) (c : Condition) (clock' : Clock) : Prop :=
  (∃ old, before = some old ∧ c.status = old.status ∧ c.lastTransitionTime = old.lastTransitionTime) ∨
    (∀ old, before = some old → c.status ≠ old.status) ∧
      ∃ time, c.lastTransitionTime = some time ∧ clock.Reads clock' time

theorem Timed.mono {before : Option Condition} {earlier later : Clock} (h : Timed before clock c clock')
    (hearlier : earlier.readings ≤ clock.readings) (hlater : clock'.readings ≤ later.readings) :
    Timed before earlier c later :=
  h.imp_right fun ⟨hmoved, time, htime, hread⟩ => ⟨hmoved, time, htime, hread.mono hearlier hlater⟩

theorem upsertIn_timed (c : Condition) (cs : List Condition) (clock : Clock) :
    ∃ d, (upsertIn c cs clock).1.find? (·.type == c.type) = some d ∧ d.status = c.status ∧
      Timed (cs.find? (·.type == c.type)) clock d (upsertIn c cs clock).2 := by
  have hnow : clock.Reads clock.tick clock.next := ⟨clock.readings, Nat.le_refl _, Nat.lt_succ_self _, rfl⟩
  induction cs with
  | nil =>
    rw [upsertIn_nil]
    exact ⟨_, List.find?_cons_of_pos (by simp), rfl, .inr ⟨fun old hold => (by cases hold), _, rfl, hnow⟩⟩
  | cons old cs ih =>
    by_cases htype : old.type = c.type
    · have hold : (old :: cs).find? (·.type == c.type) = some old := List.find?_cons_of_pos (by simpa using htype)
      rw [hold]
      by_cases hstatus : old.status = c.status
      · have hput : upsertIn c (old :: cs) clock =
            ({ c with lastTransitionTime := old.lastTransitionTime } :: cs, clock) := by
          rw [upsertIn, if_pos htype, if_pos hstatus]
          rfl
        rw [hput]
        exact ⟨_, List.find?_cons_of_pos (by simp), rfl, .inl ⟨old, rfl, hstatus.symm, rfl⟩⟩
      · have hput : upsertIn c (old :: cs) clock =
            ({ c with lastTransitionTime := some clock.next } :: cs, clock.tick) := by
          rw [upsertIn, if_pos htype, if_neg hstatus]
          rfl
        rw [hput]
        refine ⟨_, List.find?_cons_of_pos (by simp), rfl, .inr ⟨fun old' hold' => ?_, _, rfl, hnow⟩⟩
        cases hold'
        exact Ne.symm hstatus
    · have hskip (cs : List Condition) : (old :: cs).find? (·.type == c.type) = cs.find? (·.type == c.type) :=
        List.find?_cons_of_neg (by simpa using htype)
      rw [upsertIn_of_ne htype, hskip, hskip]
      exact ih

/-- Of conditions of different types each is put once, so its status moves against the one before all of them. -/
theorem upsertAll_timed (hnodup : (ds.map (·.type)).Nodup) (hc : c ∈ ds) (cs : List Condition) (clock : Clock) :
    ∃ d, (upsertAll ds cs clock).1.find? (·.type == c.type) = some d ∧ d.status = c.status ∧
      Timed (cs.find? (·.type == c.type)) clock d (upsertAll ds cs clock).2 := by
  induction ds generalizing cs clock with
  | nil => cases hc
  | cons first ds ih =>
    obtain ⟨hnot, hrest⟩ := List.nodup_cons.mp hnodup
    rcases List.mem_cons.mp hc with rfl | hc
    · obtain ⟨d, hfound, hstatus, htimed⟩ := upsertIn_timed c cs clock
      have hlast := (upsertAll_find?_of_not_mem hnot (upsertIn c cs clock).1 (upsertIn c cs clock).2).trans hfound
      exact ⟨d, hlast, hstatus, htimed.mono (Nat.le_refl _) (upsertAll_forward ds _ _)⟩
    · obtain ⟨d, hfound, hstatus, htimed⟩ := ih hrest hc (upsertIn first cs clock).1 (upsertIn first cs clock).2
      have hne : c.type ≠ first.type := by
        intro heq
        exact hnot (List.mem_map.mpr ⟨c, hc, heq⟩)
      rw [upsertIn_find?_of_ne hne] at htimed
      exact ⟨d, hfound, hstatus, htimed.mono (upsertIn_forward first cs clock) (Nat.le_refl _)⟩

theorem report_nodup (h : (s.conditions.map (·.type)).Nodup) (phase : String) (step : ApplyStep) (message : String)
    (statuses : List (String × ConditionStatus)) (clock : Clock) :
    ((s.report phase step message statuses clock).1.conditions.map (·.type)).Nodup := by
  rw [report_eq]
  exact upsertAll_nodup h _ clock

theorem report_condition? {statuses : List (String × ConditionStatus)} (hnodup : (statuses.map (·.1)).Nodup)
    (s : TrackerStatus) (phase : String) (step : ApplyStep) (message : String) (clock : Clock) (t : String) :
    let s' := s.report phase step message statuses clock
    (t ∉ statuses.map (·.1) → s'.1.condition? t = s.condition? t) ∧
      ∀ status, (t, status) ∈ statuses →
        ∃ d, s'.1.condition? t = some d ∧ d.status = status ∧ Timed (s.condition? t) clock d s'.2 := by
  rw [report_eq]
  have htypes : (statuses.map (reportedCondition step message)).map (·.type) = statuses.map (·.1) := by
    rw [List.map_map]
    rfl
  refine ⟨fun ht => ?_, fun status hstatus => ?_⟩
  · exact upsertAll_find?_of_not_mem (htypes ▸ ht) s.conditions clock
  · exact upsertAll_timed (htypes ▸ hnodup) (List.mem_map_of_mem hstatus) s.conditions clock

/-! ### Notices -/

/-- What is noted of a feature in the status of its tracker. -/
inductive Notice where
  | progressing (feature : String)
  | ready (feature : String)
  | failed (feature : String) (step : ApplyStep) (error : String)
  deriving DecidableEq, Repr

namespace Notice

/-- The status with the notice. What ends an application is noted in the status so far, or in an empty one. -/
def note (n : Notice) (previous : Option TrackerStatus) : StateM Clock TrackerStatus :=
  match n with
  | progressing feature => TrackerStatus.progressing feature previous
  | ready feature => TrackerStatus.ready feature (previous.getD {})
  | failed feature step error => TrackerStatus.failed feature step error (previous.getD {})

def phase : Notice → String
  | progressing _ => Condition.phaseProgressing
  | ready _ => Condition.phaseReady
  | failed .. => Condition.phaseError

def step : Notice → ApplyStep
  | progressing _ | ready _ => .featureCreated
  | failed _ step _ => step

def message : Notice → String
  | progressing feature => "Applying feature [" ++ feature ++ "]"
  | ready feature => "Applied feature [" ++ feature ++ "] successfully"
  | failed feature _ error => "Failed applying [" ++ feature ++ "]: " ++ error

def statuses : Notice → List (String × ConditionStatus)
  | progressing _ => [(Condition.progressing, .true)]
  | ready _ => [(Condition.available, .true), (Condition.progressing, .false), (Condition.degraded, .false)]
  | failed .. => [(Condition.available, .false), (Condition.progressing, .false), (Condition.degraded, .true)]

theorem note_eq (n : Notice) (previous : Option TrackerStatus) :
    n.note previous = (previous.getD {}).report n.phase n.step n.message n.statuses := by
  cases n <;> rfl

theorem statuses_nodup (n : Notice) : (n.statuses.map (·.1)).Nodup := by
  cases n <;> simp [statuses, Condition.available, Condition.progressing, Condition.degraded]

end Notice

/-- The status after notices, each made at a time of its own, from no status on. -/
def after (notices : List (Clock × Notice)) : Option TrackerStatus :=
  notices.foldl (fun previous n => some (n.2.note previous n.1).1) none

/-- The status of the condition of a type, if there is one. -/
def statusOf? (s : Option TrackerStatus) (t : String) : Option ConditionStatus :=
  ((s.getD {}).condition? t).map (·.status)

/-- The notice gives the condition of the type another status than it has, or its first one. -/
def Moves (n : Clock × Notice) (s : Option TrackerStatus) (t : String) : Prop :=
  statusOf? (some (n.2.note s n.1).1) t ≠ statusOf? s t

/-- The time of the condition was read for the latest notice that moved its status. -/
def Dated (notices : List (Clock × Notice)) (c : Condition) : Prop :=
  ∃ before n later, notices = before ++ n :: later ∧ Moves n (after before) c.type ∧
    (∀ before' n' later', later = before' ++ n' :: later' → ¬Moves n' (after (before ++ n :: before')) c.type) ∧
      ∃ time, c.lastTransitionTime = some time ∧ n.1.Reads (n.2.note (after before) n.1).2 time

/-- Available and Degraded are not both True. -/
def Apart (s : Option TrackerStatus) : Prop :=
  ¬(statusOf? s Condition.available = some .true ∧ statusOf? s Condition.degraded = some .true)

/-- What holds of a status whatever was noted in it. -/
structure Coherent (notices : List (Clock × Notice)) (s : TrackerStatus) : Prop where
  distinct : (s.conditions.map (·.type)).Nodup
  apart : Apart (some s)
  dated : ∀ c ∈ s.conditions, Dated notices c

/-- What the status tells of an application that is under way. -/
def TellsProgressing (feature : String) (s : TrackerStatus) : Prop :=
  s.phase = some Condition.phaseProgressing ∧
    Tells s.conditions [(Condition.progressing, .true)] .featureCreated ("Applying feature [" ++ feature ++ "]")

/-- What a notice makes of the status before it. -/
def Notice.Leaves (n : Notice) (previous : Option TrackerStatus) (s : TrackerStatus) : Prop :=
  match n with
  | progressing feature => s.TellsProgressing feature ∧
    ∀ t ∈ [Condition.available, Condition.degraded], s.condition? t = (previous.getD {}).condition? t
  | ready feature => s.TellsReady feature
  | failed feature step error => s.TellsFailed feature step error

variable {n : Clock × Notice} {notices : List (Clock × Notice)}

theorem after_concat (notices : List (Clock × Notice)) (n : Clock × Notice) :
    after (notices ++ [n]) = some (n.2.note (after notices) n.1).1 := by
  rw [after, List.foldl_append]
  rfl

theorem note_timed (n : Clock × Notice) (s : Option TrackerStatus) (hc : (n.2.note s n.1).1.condition? t = some c) :
    Timed ((s.getD {}).condition? t) n.1 c (n.2.note s n.1).2 := by
  rw [Notice.note_eq] at hc ⊢
  obtain ⟨hkept, hput⟩ :=
    report_condition? n.2.statuses_nodup (s.getD {}) n.2.phase n.2.step n.2.message n.1 t
  by_cases ht : t ∈ n.2.statuses.map (·.1)
  · obtain ⟨⟨t, status⟩, hp, rfl⟩ := List.mem_map.mp ht
    obtain ⟨d, hd, -, htimed⟩ := hput status hp
    cases hd.symm.trans hc
    exact htimed
  · exact .inl ⟨c, (hkept ht).symm.trans hc, rfl, rfl⟩

theorem note_leaves (n : Notice) (previous : Option TrackerStatus) (clock : Clock) :
    n.Leaves previous (n.note previous clock).1 := by
  cases n with
  | progressing feature =>
    refine ⟨report_tells (by decide) (previous.getD {}) _ _ _ clock, fun t ht => ?_⟩
    refine (report_condition? (by decide) (previous.getD {}) _ _ _ clock t).1 ?_
    rcases List.mem_pair.mp ht with rfl | rfl <;> decide
  | ready feature => exact ready_tells feature _ clock
  | failed feature step error => exact failed_tells feature step error _ clock

/-- The condition of a type that the status tells of has the status told. -/
theorem Tells.statusOf? {statuses : List (String × ConditionStatus)} {step : ApplyStep} {message : String}
    (h : Tells s.conditions statuses step message) {status : ConditionStatus} (ht : (t, status) ∈ statuses) :
    statusOf? (some s) t = some status := by
  obtain ⟨c, hc, rfl, -⟩ := h (t, status) ht
  exact congrArg (Option.map Condition.status) hc

theorem Notice.Leaves.apart {n : Notice} {previous : Option TrackerStatus} (h : n.Leaves previous s)
    (hbefore : Apart previous) : Apart (some s) := by
  rintro ⟨havailable, hdegraded⟩
  cases n with
  | progressing feature =>
    have hsame {t : String} (ht : t ∈ [Condition.available, Condition.degraded]) :
        TrackerStatus.statusOf? previous t = TrackerStatus.statusOf? (some s) t :=
      congrArg (Option.map Condition.status) (h.2 t ht).symm
    exact hbefore ⟨(hsame (by simp)).trans havailable, (hsame (by simp)).trans hdegraded⟩
  | ready feature =>
    have hfalse : TrackerStatus.statusOf? (some s) Condition.degraded = some .false := Tells.statusOf? h.2 (by simp)
    cases hdegraded.symm.trans hfalse
  | failed feature step error =>
    have hfalse : TrackerStatus.statusOf? (some s) Condition.available = some .false := Tells.statusOf? h.2 (by simp)
    cases havailable.symm.trans hfalse

theorem Dated.congr (h : Dated notices d) (htype : c.type = d.type)
    (htime : c.lastTransitionTime = d.lastTransitionTime) : Dated notices c := by
  unfold Dated at *
  rw [htype, htime]
  exact h

/-- A notice that does not move the status leaves the latest one that did where it was. -/
theorem Dated.concat (h : Dated notices c) (hkept : ¬Moves n (after notices) c.type) : Dated (notices ++ [n]) c := by
  obtain ⟨before, n₀, later, rfl, hmoves, hlater, htime⟩ := h
  refine ⟨before, n₀, later ++ [n], by simp, hmoves, fun before' n' later' hsplit => ?_, htime⟩
  rcases List.eq_nil_or_concat later' with rfl | ⟨later', last, rfl⟩
  · obtain ⟨rfl, hn⟩ := List.append_inj' hsplit rfl
    cases hn
    exact hkept
  · rw [List.concat_eq_append, ← List.cons_append, ← List.append_assoc] at hsplit
    exact hlater before' n' later' (List.append_inj_left' hsplit rfl)

theorem dated_concat (hbefore : ∀ s, after notices = some s → ∀ c ∈ s.conditions, Dated notices c)
    (hc : (n.2.note (after notices) n.1).1.condition? c.type = some c) : Dated (notices ++ [n]) c := by
  have hnow : statusOf? (some (n.2.note (after notices) n.1).1) c.type = some c.status :=
    congrArg (Option.map Condition.status) hc
  rcases note_timed n (after notices) hc with ⟨old, hold, hstatus, htime⟩ | ⟨hmoved, htime⟩
  · -- The status stays, so the latest notice that moved it is still the latest.
    have hkept : ¬Moves n (after notices) c.type := by
      rw [Moves, hnow, not_not, hstatus]
      exact (congrArg (Option.map Condition.status) hold).symm
    have htype : old.type = c.type := by simpa using List.find?_some hold
    cases hs : after notices with
    | none =>
      rw [hs] at hold
      cases hold
    | some s =>
      rw [hs] at hold
      have hdated := hbefore s hs old (List.mem_of_find?_eq_some hold)
      exact (hdated.congr htype.symm htime).concat hkept
  · -- This notice moved it, and none comes behind.
    refine ⟨notices, n, [], rfl, ?_, fun before' n' later' hsplit => ?_, htime⟩
    · rw [Moves, hnow]
      intro hsame
      obtain ⟨old, hold, hstatus⟩ := Option.map_eq_some_iff.mp hsame.symm
      exact hmoved old hold hstatus.symm
    · cases List.nil_eq_append_iff.mp hsplit |>.2

/-- What holds of the status before a notice holds of the one after it. -/
theorem coherent_concat (hbefore : ∀ s, after notices = some s → Coherent notices s) :
    Coherent (notices ++ [n]) (n.2.note (after notices) n.1).1 := by
  have hdistinct : ((n.2.note (after notices) n.1).1.conditions.map (·.type)).Nodup := by
    rw [Notice.note_eq]
    refine report_nodup ?_ _ _ _ _ _
    cases hs : after notices with
    | none => exact List.nodup_nil
    | some s => exact (hbefore s hs).distinct
  have hapart : Apart (after notices) := by
    cases hs : after notices with
    | none => rintro ⟨hnone, -⟩; cases hnone
    | some s => exact (hbefore s hs).apart
  refine ⟨hdistinct, (note_leaves n.2 (after notices) n.1).apart hapart, fun c hc => ?_⟩
  refine dated_concat (fun s hs => (hbefore s hs).dated) ?_
  exact (Manager.find?_eq_some_of_nodup hdistinct).mpr ⟨hc, rfl⟩

theorem coherent_of_after (h : after notices = some s) : Coherent notices s := by
  induction notices using List.reverseRecOn generalizing s with
  | nil => cases h
  | append_singleton notices n ih =>
    rw [after_concat] at h
    cases h
    exact coherent_concat fun s hs => ih hs

/-- Whatever was noted before, and whenever: after a notice the status tells of it, no two conditions are of one type,
    Available and Degraded are not both True, and each condition has the time of the latest notice that moved its
    status. -/
theorem after_coherent (notices : List (Clock × Notice)) (n : Clock × Notice) :
    ∃ s, after (notices ++ [n]) = some s ∧ n.2.Leaves (after notices) s ∧ Coherent (notices ++ [n]) s :=
  have hafter := after_concat notices n
  ⟨_, hafter, note_leaves n.2 (after notices) n.1, coherent_of_after hafter⟩

/-- A feature that failed and is applied again is degraded since it failed. -/
example : (after [(⟨0⟩, .progressing "mesh"), (⟨3⟩, .failed "mesh" .preConditions "no mesh"),
      (⟨9⟩, .progressing "mesh")]).map (·.conditions.map fun c => (c.type, c.status, c.lastTransitionTime)) =
    some [("Progressing", .true, some (Clock.mk 9).next), ("Available", .false, some (Clock.mk 3).next),
      ("Degraded", .true, some (Clock.mk 5).next)] := by
  decide

end TrackerStatus
end PlatformOperator
