import PlatformOperator.Action
import PlatformOperator.Object.Marks

/-! Reconciling instances of one type: fetch the instance, keep the finalizer in place, run the pipeline and
    write phase and conditions back. Failed runs are retried with growing delays. -/

namespace PlatformOperator

/-- How a reconciliation fails. -/
inductive ReconcileError where
  | getInstance (kind name : String) (error : ApiError)
  | deserializeInstance (kind name : String)
  | loadClusterConfig (cause : Cause)
  | updateFinalizers (name : String) (error : ApiError)
  | finalize (name : String) (error : ActionError)
  | provision (error : ActionError)
  | updateStatus (name : String) (error : ApiError)
  deriving Repr, Inhabited

namespace ReconcileError
open Text (quoted)

def cause : ReconcileError → Cause
  | .getInstance k n e => .context ("failed to get " ++ k ++ " " ++ quoted n) (.api e)
  | .deserializeInstance k n => .context ("failed to deserialize " ++ k ++ " " ++ quoted n) (.plain "<json>")
  | .loadClusterConfig c => .context "failed to load the cluster configuration" c
  | .updateFinalizers n e => .context ("failed to update the finalizers of " ++ quoted n) (.api e)
  | .finalize n e => .context ("failed to finalize " ++ quoted n) e.toCause
  | .provision e => .context "provisioning failed" e.toCause
  | .updateStatus n e => .context ("failed to update the status of " ++ quoted n) (.api e)

/-- The name of the failed part. -/
def category : ReconcileError → String
  | .getInstance .. => "GetInstance"
  | .deserializeInstance .. => "DeserializeInstance"
  | .loadClusterConfig _ => "LoadClusterConfig"
  | .updateFinalizers .. => "UpdateFinalizers"
  | .finalize .. => "Finalize"
  | .provision _ => "Provision"
  | .updateStatus .. => "UpdateStatus"

instance : Failure ReconcileError := ⟨category, cause⟩

/-- Whether a pipeline asked for no retry. -/
def isStop : ReconcileError → Bool
  | .provision e | .finalize _ e => e.isStop
  | _ => false

end ReconcileError

/-- What follows a reconciliation. -/
inductive NextStep where
  /-- The next change of the instance. -/
  | awaitChange
  /-- Another try after some seconds. -/
  | requeue (seconds : Nat)
  deriving DecidableEq, Repr

/-! ### Delays -/

namespace Backoff

/-- The delay after a first failure, in seconds. -/
def base : Nat := 5

def limit : Nat := 300

/-- Counts stop at the largest number of 32 bits. -/
def increment (failures : Nat) : Nat := min (failures + 1) (wordSize 32 - 1)

/-- The delay after this many failures in a row: it doubles each time up to the limit. -/
def delay (failures : Nat) : Nat := min (base * Nat.pow 2 (min (failures - 1) 16)) limit

end Backoff

structure Reconciler where
  /-- The name that failures are counted under. -/
  name : String
  resource : ApiResource
  config : Op Cause ClusterConfig
  release : Release
  /-- Conditions that decide whether an instance is ready, besides that of the pipeline. -/
  dependents : List String
  pipeline : Pipeline
  /-- Run before an instance disappears. -/
  finalizer : Option Pipeline

namespace Reconciler

/-! ### Failure counts -/

/-- The key of an instance: a cluster object goes by its name alone. -/
def key («namespace» : Option String) (name : String) : String :=
  match «namespace» with
  | some ns => ns ++ "/" ++ name
  | none => name

def failures (r : Reconciler) (w : World) : Dict Nat := (w.memory.failures.get? r.name).getD []

def setFailures (r : Reconciler) (counts : Dict Nat) (w : World) : World :=
  { w with memory := { w.memory with failures := w.memory.failures.insert r.name counts } }

/-- Forgets the failures of an instance. -/
def forget (r : Reconciler) (key : String) (w : World) : World := r.setFailures ((r.failures w).erase key) w

/-- What follows a failure. A stopped run waits for a change; any other counts as one more failure. -/
def errorPolicy (r : Reconciler) (name : String) («namespace» : Option String) (e : ReconcileError) :
    StateM World NextStep := do
  if e.isStop then return .awaitChange
  let k := key «namespace» name
  let count := Backoff.increment (((r.failures (← get)).get? k).getD 0)
  modify fun w => r.setFailures ((r.failures w).insert k count) w
  return .requeue (Backoff.delay count)

/-! ### Runs -/

/-- The request for an instance, with its conditions. -/
def request (r : Reconciler) (subject : Instance) : Op Cause Request := do
  let config ← r.config
  Op.timed (Request.start config r.release subject (Condition.provisioningSucceeded :: r.dependents))

/-- Runs a pipeline on a request, and gives the request as the pipeline leaves it. -/
def runPipeline {ε : Type} (p : Pipeline) (request : Request) :
    Op ε (Request × Except ActionError Unit) := fun world =>
  let (outcome, run) := p.run { world, request }
  (.ok (run.request, outcome), run.world)

def updateFinalizers (r : Reconciler) (subject : Instance) (finalizers : List String) : Op ReconcileError Unit := do
  let patch := Json.ofPairs [("metadata", .ofPairs [("finalizers", .arr (finalizers.map .str))])]
  let _ ← Op.mapError (.updateFinalizers subject.name)
    (World.mergePatch r.resource subject.metadata.namespace subject.name patch)

/-- Runs the pipeline for an instance about to disappear. To stop there counts as done. -/
def finalize (r : Reconciler) (subject : Instance) (finalizer : Pipeline) : Op ReconcileError Unit := do
  let request ← Op.mapError .loadClusterConfig (r.request subject)
  match ← runPipeline finalizer request with
  | (_, .ok ()) => pure ()
  | (_, .error e) => if !e.isStop then throw (.finalize subject.name e)

/-- Finalizes a terminating instance and lets it go. An instance without the finalizer has been let go
    before. -/
def delete (r : Reconciler) (subject : Instance) : Op ReconcileError Unit := do
  if !subject.metadata.finalizerList.contains Marks.finalizer then return ()
  if let some finalizer := r.finalizer then r.finalize subject finalizer
  r.updateFinalizers subject (subject.metadata.finalizerList.filter (· != Marks.finalizer))

/-- The conditions after a run, with its outcome among them and in their order. -/
def concluded (generation : Int) (outcome : Except ActionError Unit) (conditions : Manager) : StateM Clock Manager := do
  let details : ConditionDetails := { observedGeneration := some generation }
  let m ← match outcome with
    | .ok () => conditions.mark Condition.provisioningSucceeded .true details
    | .error (.stop c) =>
      let stopped := { details with reason := some Condition.reasonStopped, message := some c.fullMessage }
      conditions.mark Condition.provisioningSucceeded .false stopped
    | .error (.retryable c) => conditions.mark Condition.provisioningSucceeded .false (details.failed c)
  return (← m.recompute "").sort

/-- The status that conditions make of an earlier one. -/
def statusOf (generation : Int) (conditions : Manager) (status : PlatformStatus) : PlatformStatus :=
  if conditions.isHappy then
    { phase := some Condition.phaseReady, observedGeneration := some generation, conditions := conditions.conditions }
  else
    { status with phase := some Condition.phaseNotReady, conditions := conditions.conditions }

/-- Runs the pipeline for an instance. Without a configuration the pipeline counts as failed. The result is the
    instance and the conditions after the run, and its outcome. -/
def provision {ε : Type} (r : Reconciler) (subject : Instance) :
    Op ε (Instance × Manager × Except ActionError Unit) := do
  match ← Op.outcome (r.request subject) with
  | .ok request =>
    let conditions ← Op.timed request.conditions.reset
    let (request, outcome) ← runPipeline r.pipeline { request with conditions }
    return (request.subject, request.conditions, outcome)
  | .error c =>
    let conditions ← Op.timed
      (Manager.start subject.conditions Condition.ready [Condition.provisioningSucceeded])
    return (subject, conditions, .error (.retryable (ReconcileError.loadClusterConfig c).cause))

/-- Writes the status of an instance, if it is still there. -/
def writeStatus (r : Reconciler) («namespace» : Option String) (name : String) (status : PlatformStatus) :
    Op ReconcileError Unit := do
  match ← Op.outcome (World.patchStatus r.resource «namespace» name status.toJson) with
  | .ok () => pure ()
  | .error e => if !e.isNotFound then throw (.updateStatus name e)

/-- Adds the platform's finalizer to an instance without it, if there is something to run at its end. -/
def ensureFinalizer (r : Reconciler) (subject : Instance) : Op ReconcileError Unit := do
  let held := subject.metadata.finalizerList
  if r.finalizer.isSome && !held.contains Marks.finalizer then r.updateFinalizers subject (held ++ [Marks.finalizer])

/-- Provisions a live instance and writes its status. The finalizer is in place before the pipeline runs. -/
def apply (r : Reconciler) (subject : Instance) : Op ReconcileError Unit := do
  r.ensureFinalizer subject
  let (after, conditions, outcome) ← r.provision subject
  let conditions ← Op.timed (concluded subject.generation outcome conditions)
  r.writeStatus after.metadata.namespace subject.name (statusOf subject.generation conditions (after.status.getD {}))
  match outcome with
  | .ok () => return ()
  | .error e => throw (.provision e)

/-- The instance of a name, if it exists. -/
def find (r : Reconciler) (name : String) («namespace» : Option String) : Op ReconcileError (Option Instance) := do
  match ← Op.mapError (.getInstance r.resource.kind name) (World.getObject r.resource «namespace» name) with
  | none => return none
  | some object =>
    let some subject := Instance.ofJson? r.resource object.toJson | throw (.deserializeInstance r.resource.kind name)
    return some subject

/-- Reconciles the instance of a name. One that no longer exists needs nothing. -/
def reconcile (r : Reconciler) (name : String) («namespace» : Option String) : Op ReconcileError NextStep := do
  if let some subject ← r.find name «namespace» then
    if subject.metadata.isTerminating then r.delete subject else r.apply subject
  modify (r.forget (key «namespace» name))
  return .awaitChange

end Reconciler
end PlatformOperator
