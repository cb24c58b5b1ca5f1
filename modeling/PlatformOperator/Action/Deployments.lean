import PlatformOperator.Action
import PlatformOperator.Object.Marks

/-! Whether the Deployments of the instance are ready. -/

namespace PlatformOperator

/-- How counting Deployments fails. -/
inductive DeploymentsError where
  | resolveResource (error : ApiError)
  | listDeployments (error : ApiError) (selector : String)
  | parseDeployment (name : String)
  deriving Repr, Inhabited

namespace DeploymentsError
open Text (quoted)

def cause : DeploymentsError → Cause
  | .resolveResource e => .context "failed to resolve the Deployment API resource" (.api e)
  | .listDeployments e s => .context ("failed to list Deployments matching " ++ quoted s) (.api e)
  | .parseDeployment n => .context ("failed to parse Deployment " ++ quoted n) (.plain "<json>")

end DeploymentsError

namespace Deployments
open Json

/-- The replicas that a Deployment's status counts, all and ready ones; a missing count is zero. -/
def replicas? (o : Object) : Option (Option (Int × Int)) := do
  let status ← optional o.content "status" fun j => match j with
    | .obj ms => some ms
    | _ => none
  match status with
  | none => return none
  | some fields =>
    let count (name : String) : Option Int := (optional fields name (signed? 32)).map (·.getD 0)
    let _ ← ["availableReplicas", "collisionCount", "terminatingReplicas", "unavailableReplicas",
      "updatedReplicas"].mapM count
    let _ ← optional fields "observedGeneration" (signed? 64)
    return some (← count "replicas", ← count "readyReplicas")

/-- A Deployment without status counts as ready. -/
def isReady? (o : Object) : Option Bool :=
  (replicas? o).map fun counts => counts.all fun (total, ready) => ready == total

/-- The number of ready ones; the first object that is no Deployment ends the count. -/
def countReady : List Object → Except DeploymentsError Nat
  | [] => .ok 0
  | o :: os =>
    match isReady? o with
    | none => .error (.parseDeployment o.name)
    | some ready => (countReady os).map fun n => if ready then n + 1 else n

/-- The number of ready and of all Deployments that match a selector. -/
def count («namespace» selector : String) : Op DeploymentsError (Nat × Nat) := do
  let (resource, _) ← Op.mapError .resolveResource (World.resolve ⟨"apps", "v1", "Deployment"⟩)
  let os ← Op.mapError (.listDeployments · selector) (World.list resource (some «namespace») (some selector))
  let ready ← ExceptT.mk (pure (countReady os))
  return (ready, os.length)

end Deployments

namespace Action

/-- Marks the Deployments as available once there is one and all are ready. They are selected by a label
    and its value, by default by the kind they are part of. -/
def deployments (label : Option (String × String)) : Action where
  name := "deployments-available"
  run := do
    let r ← RunM.request
    let (key, value) := label.getD (Marks.partOf, r.subject.label)
    let (ready, total) ← RunM.ofOp (fun e : DeploymentsError => .retryable e.cause)
      (Deployments.count r.config.applicationsNamespace (key ++ "=" ++ value))
    let details : ConditionDetails :=
      { message := some (toString ready ++ "/" ++ toString total ++ " deployments ready")
        observedGeneration := some r.subject.generation }
    RunM.modifyConditions fun m =>
      if total > 0 ∧ ready = total then m.mark Condition.deploymentsAvailable .true details
      else m.mark Condition.deploymentsAvailable .false
        { details with reason := some Condition.reasonDeploymentsNotReady }

end Action
end PlatformOperator
