import PlatformOperator.Action.Features
import PlatformOperator.Proofs.Condition.Set
import PlatformOperator.Proofs.World.Calls

/-! Where an action that applies features reports: its condition tells how the features fared. A definition in error
    ends the action before that, and the condition still tells how an earlier run ended. -/

namespace PlatformOperator

/-! ### Conditions that report -/

/-- The condition of the type tells how something ended: it is True after a success, and after a failure it is an error
    that gives the cause. -/
def Manager.Reports (m : Manager) (t : String) (ended : Except ActionError Unit) : Prop :=
  ∃ c, m.condition? t = some c ∧ match ended with
    | .ok () => c.status = .true
    | .error e => c.status = .false ∧ c.severity = .error ∧ c.message = some e.cause.fullMessage

namespace Manager
variable {m : Manager} {t : String}

/-- A mark is read as it was made, but for marks of the happy condition. -/
theorem mark_condition? (ht : t ≠ m.happy) (status : ConditionStatus) (d : ConditionDetails) (clock : Clock) :
    ∃ c, (m.mark t status d clock).1.condition? t = some c ∧ c.status = status ∧ c.message = d.message ∧
      c.severity = d.severity.getD .error := by
  let marked : Condition :=
    { type := t, status := status, reason := d.reason, message := d.message,
      observedGeneration := d.observedGeneration, severity := d.severity.getD .error }
  obtain ⟨c, hc, hsame⟩ := set_condition? (c := marked) ht clock
  obtain ⟨hstatus, -, hmessage⟩ := Condition.said_of_timeless hsame
  obtain ⟨-, hseverity⟩ := Condition.observed_of_timeless hsame
  exact ⟨c, hc, hstatus, hmessage, hseverity⟩

theorem mark_reports_success (ht : t ≠ m.happy) (clock : Clock) :
    (m.mark t .true {} clock).1.Reports t (.ok ()) := by
  obtain ⟨c, hc, hstatus, -, -⟩ := mark_condition? ht .true {} clock
  exact ⟨c, hc, hstatus⟩

theorem mark_reports_failure {e : ActionError} (ht : t ≠ m.happy) (clock : Clock) :
    (m.mark t .false (({} : ConditionDetails).failed e.cause) clock).1.Reports t (.error e) := by
  let details := ({} : ConditionDetails).failed e.cause
  obtain ⟨c, hc, hstatus, hmessage, hseverity⟩ := mark_condition? ht .false details clock
  exact ⟨c, hc, hstatus, hseverity, hmessage⟩

end Manager

theorem RunM.modifyConditions_eq (f : Manager → StateM Clock Manager) (run : Run) :
    modifyConditions f run =
      (.ok (), { run with
        world := { run.world with clock := (f run.request.conditions run.world.clock).2 }
        request := { run.request with conditions := (f run.request.conditions run.world.clock).1 } }) := rfl

/-! ### Applying features -/

namespace FeaturesHandler
variable {ε : Type}

/-- Failures are collected, so going through features fails at none. -/
theorem collect_isOk (f : Feature → Op FeatureError Unit) (features : List Feature) (w : World) :
    ∃ failures w', (collect f features : Op ε _) w = (.ok failures, w') := by
  induction features generalizing w with
  | nil => exact ⟨[], w, rfl⟩
  | cons feature features ih =>
    rcases h : f feature w with ⟨e | ⟨⟩, w₁⟩
    · obtain ⟨failures, w', hrest⟩ := ih w₁
      refine ⟨e :: failures, w', ?_⟩
      exact (Computation.bind_ok (Op.outcome_eq h)).trans (Computation.bind_ok hrest)
    · obtain ⟨failures, w', hrest⟩ := ih w₁
      exact ⟨failures, w', (Computation.bind_ok (Op.outcome_eq h)).trans hrest⟩

theorem apply_isOk (handler : FeaturesHandler) (w : World) :
    ∃ failures w', (handler.apply : Op ε _) w = (.ok failures, w') := collect_isOk Feature.apply handler.features w

end FeaturesHandler

namespace FeatureSet

/-- The handler that the set adds its features to. -/
def handler (s : FeatureSet) (r : Request) : FeaturesHandler where
  source := { type := s.sourceType, name := r.subject.name }
  appNamespace := r.config.applicationsNamespace
  owner := r.subject.controllerReference?

/-- How it ends that features were applied: well, or with all that failed, to be retried. -/
def outcome (failures : List FeatureError) : Except ActionError Unit :=
  match Cause.collect? (failures.map FeatureError.cause) with
  | none => .ok ()
  | some c => .error (.retryable c)

end FeatureSet

namespace Action
variable {s : FeatureSet} {t : String} {run : Run}

theorem features_of_error {e : FeatureError} (h : s.register run.request (s.handler run.request) = .error e) :
    (features s).run run = (.error (.stop e.cause), run) := by
  refine (Computation.bind_ok RunM.request_eq).trans ?_
  dsimp only
  generalize hadded : s.register run.request _ = added
  cases hadded.symm.trans h
  rfl

/-- Once its features are added, the action applies them and reports how that ended. -/
theorem features_of_ok {handler : FeaturesHandler} (hs : s.condition = some t) (ht : t ≠ run.request.conditions.happy)
    (h : s.register run.request (s.handler run.request) = .ok handler) :
    ∃ failures w, (handler.apply : Op ActionError _) run.world = (.ok failures, w) ∧
      ((features s).run run).1 = FeatureSet.outcome failures ∧
        ((features s).run run).2.request.conditions.Reports t (FeatureSet.outcome failures) := by
  obtain ⟨failures, w, happly⟩ := handler.apply_isOk (ε := ActionError) run.world
  refine ⟨failures, w, happly, ?_⟩
  have hrun : (features s).run run = (do
      RunM.modifyConditions fun m => match Cause.collect? (failures.map FeatureError.cause) with
        | none => m.mark t .true {}
        | some c => m.mark t .false (({} : ConditionDetails).failed c)
      match Cause.collect? (failures.map FeatureError.cause) with
      | none => return ()
      | some c => throw (.retryable c) : RunM Unit) { run with world := w } := by
    refine (Computation.bind_ok RunM.request_eq).trans ?_
    dsimp only
    generalize hadded : s.register run.request _ = added
    cases hadded.symm.trans h
    rw [hs]
    exact Computation.bind_ok (RunM.ofOp_eq_ok.mpr ⟨happly, rfl⟩)
  rw [hrun, Computation.bind_ok (RunM.modifyConditions_eq _ _), FeatureSet.outcome]
  cases Cause.collect? (failures.map FeatureError.cause) with
  | none => exact ⟨rfl, Manager.mark_reports_success ht w.clock⟩
  | some cause => exact ⟨rfl, Manager.mark_reports_failure (e := .retryable cause) ht w.clock⟩

/-- The condition of the action tells how the features fared that were added, whatever it told before. Where they cannot
    be added, the action ends before it does anything, and the condition tells what it told before. -/
theorem features_report (s : FeatureSet) (run : Run) (hs : s.condition = some t)
    (ht : t ≠ run.request.conditions.happy) :
    let ended := (features s).run run
    match s.register run.request (s.handler run.request) with
    | .ok handler => ended.2.request.conditions.Reports t ended.1 ∧
        ∃ failures w, (handler.apply : Op ActionError _) run.world = (.ok failures, w) ∧
          ended.1 = FeatureSet.outcome failures
    | .error e => ended = (.error (.stop e.cause), run) := by
  intro ended
  cases h : s.register run.request (s.handler run.request) with
  | error e => exact features_of_error h
  | ok handler =>
    obtain ⟨failures, w, happly, hended, hreports⟩ := features_of_ok hs ht h
    have hended : ended.1 = FeatureSet.outcome failures := hended
    exact ⟨hended ▸ hreports, failures, w, happly, hended⟩

namespace Sample

/-- One feature, of which it is not known whether it is enabled. -/
def meshes («namespace» : String) : FeatureSet where
  name := "service-mesh"
  condition := some "ServiceMesh"
  register _ handler := handler.add
    { name := "mesh", plan := { enabled := some fun _ => .error (.plain "not configured") }
      targetNamespace := some «namespace» }

/-- An earlier run found the service mesh in order. -/
def meshed : Run where
  world := {}
  request :=
    { subject := ⟨Instance.dashboards, { name := some "d", uid := some "d" }, none, none⟩
      config := ⟨"apps", none⟩
      release := default
      conditions := ⟨"Ready", ["ServiceMesh"],
        [{ type := "Ready", status := .true }, { type := "ServiceMesh", status := .true }], by decide⟩ }

end Sample

open Sample in
theorem features_report_sample :
    let ended := (features (meshes "mesh")).run meshed
    ended.1.isOk = false ∧ ended.2.request.conditions.Reports "ServiceMesh" ended.1 :=
  ⟨by decide +kernel, (features_report (meshes "mesh") meshed rfl (by decide)).1⟩

open Sample in
/-- The definition is in error, so the action stops, and the condition still tells of the earlier success. -/
theorem features_keep_success :
    let ended := (features (meshes "")).run meshed
    ended.1 = .error (.stop (FeatureError.missingTargetNamespace "mesh").cause) ∧
      ended.2.request.conditions.condition? "ServiceMesh" = some { type := "ServiceMesh", status := .true } ∧
        ¬ended.2.request.conditions.Reports "ServiceMesh" ended.1 := by
  intro ended
  have hstop : ended = (.error (.stop (FeatureError.missingTargetNamespace "mesh").cause), meshed) :=
    features_of_error (s := meshes "") rfl
  rw [hstop]
  refine ⟨rfl, rfl, ?_⟩
  rintro ⟨c, hc, hstatus, -⟩
  cases hc
  cases hstatus

end Action
end PlatformOperator
