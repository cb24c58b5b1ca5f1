import PlatformOperator.Action
import PlatformOperator.Object.Marks

/-! Deploying: every resource of the request is stamped with the release and the instance, gets the
    instance as its controller, and is applied unless its deployed copy was opted out. -/

namespace PlatformOperator

/-- How the deployment of a resource fails. -/
inductive DeployError where
  | missingType (name : String)
  | missingOwnerUid (name : String)
  | resolveResource (error : ApiError) (kind name : String)
  | getResource (error : ApiError) (kind name : String)
  | applyResource (error : ApiError) (kind name : String)
  deriving Repr, Inhabited

namespace DeployError
open Text (quoted)

def cause : DeployError → Cause
  | .missingType n => .plain ("resource " ++ quoted n ++ " has no apiVersion or kind")
  | .missingOwnerUid n => .plain ("instance " ++ quoted n ++ " has no UID to own resources")
  | .resolveResource e k n =>
    .context ("failed to resolve the API resource of " ++ k ++ " " ++ quoted n) (.api e)
  | .getResource e k n => .context ("failed to look up the deployed " ++ k ++ " " ++ quoted n) (.api e)
  | .applyResource e k n => .context ("failed to apply " ++ k ++ " " ++ quoted n) (.api e)

/-- A resource without type, or an instance that cannot own any, will not change by a retry. -/
def actionError (e : DeployError) : ActionError :=
  match e with
  | .missingType _ | .missingOwnerUid _ => .stop e.cause
  | _ => .retryable e.cause

end DeployError

namespace Deploy

/-- The annotations that tell what an object was rendered for. -/
def marks (r : Request) : Dict String :=
  [(Marks.instanceGeneration, Integer.text r.subject.generation), (Marks.instanceName, r.subject.name),
    (Marks.instanceUid, r.subject.metadata.uid.getD ""), (Marks.platformType, r.release.platform.text),
    (Marks.platformVersion, r.release.version.text)]

/-- Marks an object as rendered for the request. A part-of label it has already stays. -/
def stamp (r : Request) (o : Object) : Object :=
  o.mapMeta fun m => { m with
    annotations := some ((marks r).foldl (fun d p => Dict.insert p.1 p.2 d) (m.annotations.getD []))
    labels := if (m.label? Marks.partOf).isSome then m.labels
      else some ((m.labels.getD []).insert Marks.partOf r.subject.label) }

/-- Makes `owner` the only controller, behind the other owners. -/
def setController (owner : OwnerReference) (o : Object) : Object :=
  o.mapMeta fun m => { m with
    ownerReferences :=
      some ((m.owners.filter fun r => r.uid != owner.uid && r.controller != some true) ++ [owner]) }

/-- Puts an object where its type lives: into its own namespace or `fallback`, or into none. -/
def placed (scope : Scope) (fallback : String) (o : Object) : Object :=
  o.mapMeta fun m => { m with
    «namespace» := match scope with
      | .namespaced => some (m.namespace.getD fallback)
      | .cluster => none }

/-- Applies a resource. The result is what the cluster holds of it, if it was not opted out. -/
def deploy (r : Request) (owner : OwnerReference) (o : Object) : Op DeployError (Option Object) := do
  let name := o.name
  let some gvk := o.gvk? | throw (.missingType name)
  let (resource, scope) ← Op.mapError (.resolveResource · gvk.kind name) (World.resolve gvk)
  let o := placed scope r.config.applicationsNamespace o
  let deployed ← Op.mapError (.getResource · gvk.kind name) (World.getObject resource o.metadata.namespace name)
  if deployed.any (·.metadata.isUnmanaged) then return none
  let applied ← Op.mapError (.applyResource · gvk.kind name)
    (World.applyObject resource (setController owner (stamp r o)))
  return some applied

/-- Deploys the resources after `done`, and replaces each by what the cluster holds of it. -/
def deployAll (owner : OwnerReference) (done : List Object) : List Object → RunM Unit
  | [] => pure ()
  | o :: os => do
    let deployed ← RunM.ofOp DeployError.actionError (deploy (← RunM.request) owner o)
    let done := done ++ [deployed.getD o]
    RunM.modifyRequest fun r => { r with resources := done ++ os }
    deployAll owner done os

end Deploy

namespace Action

/-- Applies the resources of the request. -/
def deploy : Action where
  name := "deploy"
  run := do
    let r ← RunM.request
    match r.subject.controllerReference? with
    | none => throw (DeployError.missingOwnerUid r.subject.name).actionError
    | some owner => Deploy.deployAll owner [] r.resources

end Action
end PlatformOperator
