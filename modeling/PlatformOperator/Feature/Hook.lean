import PlatformOperator.Feature
import PlatformOperator.Poll

/-! Steps that features commonly run: creating a namespace, asking for a type, and waiting. -/

namespace PlatformOperator

/-- Polls a check of the world that takes no time by itself. -/
def World.poll (what : String) (limit : Nat) (check : Op Cause Bool) : Op PollError Unit := fun w =>
  let ((outcome, time), w) := (Poll.untilHolds what limit fun w =>
    let (found, w) := check w
    ({ outcome := found, duration := 0 }, w)).run w
  (outcome, { w with elapsed := w.elapsed + time })

namespace FeatureHook
open Text (quoted)

def core (kind : String) : Gvk := ⟨"", "v1", kind⟩

/-- A pod is ready unless a condition says that it is not. -/
def isPodReady (pod : Object) : Bool :=
  let conditions := (((pod.content.get? "status").getD .null).member "conditions").items
  !conditions.any fun c => c.member "type" == .str "Ready" && c.member "status" != .str "True"

/-- Waits until all pods of a namespace that a selector accepts are ready. -/
def waitForPods («namespace» : String) (selector : Option String) (limit : Nat) : FeatureHook := fun _ => do
  let (pods, _) ← Op.mapError .api (World.resolve (core "Pod"))
  Op.mapError PollError.cause <|
    World.poll ("pods in namespace " ++ quoted «namespace» ++ " are ready") limit do
      let found ← Op.mapError .api (World.list pods (some «namespace») selector)
      return found.all isPodReady

/-- Waits until an object of a type exists in a namespace. The type itself may come later. -/
def waitForResource (gvk : Gvk) («namespace» : String) (limit : Nat) : FeatureHook := fun _ =>
  Op.mapError PollError.cause <|
    World.poll (gvk.kind ++ " exists in namespace " ++ quoted «namespace») limit do
      match ← Op.outcome (World.resolve gvk) with
      | .error e => if e.isNotFound then return false else throw (.api e)
      | .ok (resource, _) =>
        let found ← Op.mapError .api (World.list resource (some «namespace») none)
        return !found.isEmpty

/-- Fails unless a type is defined, which is named by its plural and group. -/
def ensureDefinition (name : String) : FeatureHook := fun _ => do
  let (definitions, _) ← Op.mapError .api
    (World.resolve ⟨"apiextensions.k8s.io", "v1", "CustomResourceDefinition"⟩)
  let found ← Op.mapError
    (fun e => .context ("failed to look up CustomResourceDefinition " ++ quoted name) (.api e))
    (World.getObject definitions none name)
  if found.isNone then throw (.plain ("CustomResourceDefinition " ++ quoted name ++ " is not installed"))

/-- Creates a namespace unless it exists. -/
def createNamespace (name : String) : FeatureHook := fun _ => do
  let (namespaces, _) ← Op.mapError .api (World.resolve (core "Namespace"))
  if (← Op.mapError .api (World.getObject namespaces none name)).isNone then
    let object : Object :=
      { types := some ⟨namespaces.apiVersion, namespaces.kind⟩, metadata := { name := some name } }
    let _ ← Op.mapError (fun e => .context ("failed to create namespace " ++ quoted name) (.api e))
      (World.applyObject namespaces object)

end FeatureHook
end PlatformOperator
