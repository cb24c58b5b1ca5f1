import PlatformOperator.Condition

/-! The status of a feature: how far its last application came. -/

namespace PlatformOperator
open Json

/-- The step of an application that a status reports on. -/
inductive ApplyStep where
  | featureCreated
  | preConditions
  | loadTemplateData
  | resourceCreation
  | applyManifests
  | postConditions
  /-- None of the steps in particular. -/
  | failedApplying
  deriving DecidableEq, Repr, Inhabited

namespace ApplyStep

def text : ApplyStep → String
  | .featureCreated => "FeatureCreated"
  | .preConditions => "PreConditions"
  | .loadTemplateData => "LoadTemplateData"
  | .resourceCreation => "ResourceCreation"
  | .applyManifests => "ApplyManifests"
  | .postConditions => "PostConditions"
  | .failedApplying => "FailedApplying"

def all : List ApplyStep :=
  [.featureCreated, .preConditions, .loadTemplateData, .resourceCreation, .applyManifests, .postConditions,
    .failedApplying]

def ofText? (s : String) : Option ApplyStep := all.find? (·.text == s)

end ApplyStep

structure TrackerStatus where
  phase : Option String := none
  conditions : List Condition := []
  deriving DecidableEq, Repr, Inhabited

namespace TrackerStatus

def ofJson? (j : Json) : Option TrackerStatus := do
  let fields ← j.fields? ["phase", "conditions"]
  return {
    phase := ← optional fields "phase" str?
    conditions := ← defaulted fields "conditions" [] (list? Condition.ofJson?) }

/-- The conditions are always written. -/
def toJson (s : TrackerStatus) : Json :=
  .ofPresent [("phase", s.phase.map .str), ("conditions", some (.arr (s.conditions.map Condition.toJson)))]

def condition? (s : TrackerStatus) (t : String) : Option Condition := s.conditions.find? (·.type == t)

/-- Puts `c` in place of the first condition of its type, else at the end. Its transition time is the old
    one if the status stays, else the clock's. -/
def upsertIn (c : Condition) : List Condition → StateM Clock (List Condition)
  | [] => return [{ c with lastTransitionTime := some (← Clock.read) }]
  | old :: cs => do
    if old.type = c.type then
      let time ← if old.status = c.status then pure old.lastTransitionTime else some <$> Clock.read
      return { c with lastTransitionTime := time } :: cs
    else return old :: (← upsertIn c cs)

/-- Reports `statuses`, all with one reason and message, under a phase. -/
def report (s : TrackerStatus) (phase : String) (step : ApplyStep) (message : String)
    (statuses : List (String × ConditionStatus)) : StateM Clock TrackerStatus := do
  let conditions ← statuses.foldlM (fun cs p => upsertIn
    { type := p.1, status := p.2, reason := some step.text, message := some message } cs) s.conditions
  return { phase := some phase, conditions }

/-- An application has begun. -/
def progressing (feature : String) (previous : Option TrackerStatus) : StateM Clock TrackerStatus :=
  (previous.getD {}).report Condition.phaseProgressing .featureCreated ("Applying feature [" ++ feature ++ "]")
    [(Condition.progressing, .true)]

/-- The application came to its end. -/
def ready (feature : String) (previous : TrackerStatus) : StateM Clock TrackerStatus :=
  previous.report Condition.phaseReady .featureCreated ("Applied feature [" ++ feature ++ "] successfully")
    [(Condition.available, .true), (Condition.progressing, .false), (Condition.degraded, .false)]

/-- The application failed in `step`. -/
def failed (feature : String) (step : ApplyStep) (error : String) (previous : TrackerStatus) :
    StateM Clock TrackerStatus :=
  previous.report Condition.phaseError step ("Failed applying [" ++ feature ++ "]: " ++ error)
    [(Condition.available, .false), (Condition.progressing, .false), (Condition.degraded, .true)]

end TrackerStatus
end PlatformOperator
