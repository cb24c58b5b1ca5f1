import PlatformOperator.Cause
import PlatformOperator.World

/-! The engine of garbage collection: it keeps a catalog of deletable types, lists their objects and
    deletes those that predicates accept. -/

namespace PlatformOperator

/-- How a refresh or a pass of an engine fails. -/
inductive CollectError where
  | discoverResources (error : ApiError)
  | retrieveResourceRules (error : ApiError) («namespace» : String)
  | evaluateTypePredicate (cause : Cause) (resource : String)
  | listResources (error : ApiError) (resource : String)
  | evaluateObjectPredicate (cause : Cause) (name «namespace» : String)
  | deleteResource (error : ApiError) (resource «namespace» name : String)
  deriving Repr, Inhabited

namespace CollectError
open Text (quoted)

def cause : CollectError → Cause
  | .discoverResources e => .context "failed to discover API resources" (.api e)
  | .retrieveResourceRules e ns => .context ("failed to retrieve resource rules in namespace " ++ quoted ns) (.api e)
  | .evaluateTypePredicate c r => .context ("cannot determine if resource " ++ r ++ " can be deleted") c
  | .listResources e r => .context ("cannot list child resources " ++ r) (.api e)
  | .evaluateObjectPredicate c n ns =>
    .context ("cannot determine if object " ++ quoted n ++ " in namespace " ++ quoted ns ++ " can be deleted") c
  | .deleteResource e r ns n =>
    .context ("cannot delete resource " ++ r ++ ", namespace: " ++ quoted ns ++ ", name: " ++ quoted n) (.api e)

def kindName : CollectError → String
  | .discoverResources _ => "DiscoverResources"
  | .retrieveResourceRules .. => "RetrieveResourceRules"
  | .evaluateTypePredicate .. => "EvaluateTypePredicate"
  | .listResources .. => "ListResources"
  | .evaluateObjectPredicate .. => "EvaluateObjectPredicate"
  | .deleteResource .. => "DeleteResource"

instance : Failure CollectError := ⟨kindName, cause⟩

end CollectError

/-- What a pass lists and deletes. Without further choices every type is accepted and no object is. -/
structure PassOptions where
  selector : Option String := none
  /-- Overrides the engine's way to delete. -/
  propagation : Option Propagation := none
  acceptsType : CatalogType → Except Cause Bool := fun _ => .ok true
  acceptsObject : Object → Except Cause Bool := fun _ => .ok false

/-- An engine by its name; its catalog is part of what the operator remembers. -/
structure Engine where
  id : EngineId
  propagation : Propagation

namespace Engine

def catalog (e : Engine) (w : World) : List CatalogType := (w.memory.catalogs.lookup e.id).getD []

def setCatalog (e : Engine) (types : List CatalogType) (w : World) : World :=
  { w with memory := { w.memory with
      catalogs := (e.id, types) :: w.memory.catalogs.filter (·.1 != e.id) } }

/-- Computes the catalog anew, from discovery and from the rules granted in a namespace. -/
def refresh (e : Engine) («namespace» : String) : Op CollectError Unit := do
  let lists ← Op.mapError .discoverResources World.discover
  let rules ← Op.mapError (.retrieveResourceRules · «namespace») (World.accessRules «namespace»)
  modify (e.setCatalog (Catalog.compute lists rules))

/-- Deletes an object; one that vanished meanwhile is fine. -/
def deleteObject (t : CatalogType) (o : Object) (policy : Propagation) : Op CollectError Unit := do
  match ← Op.outcome (World.delete t.apiResource o.metadata.namespace o.name policy) with
  | .ok () => return ()
  | .error err =>
    if err.isNotFound then return ()
    else throw (.deleteResource err t.text (o.metadata.namespace.getD "") o.name)

/-- Goes through the objects of a type and counts the deleted ones. Objects already terminating are
    left alone. -/
def passObjects (options : PassOptions) (policy : Propagation) (t : CatalogType) :
    List Object → Nat → Op CollectError Nat
  | [], deleted => return deleted
  | o :: os, deleted => do
    match options.acceptsObject o with
    | .error c => throw (.evaluateObjectPredicate c o.name (o.metadata.namespace.getD ""))
    | .ok accepted =>
      if accepted && !o.metadata.isTerminating then
        deleteObject t o policy
        passObjects options policy t os (deleted + 1)
      else passObjects options policy t os deleted

/-- Lists the objects of a type; types that can no longer be listed have none. -/
def listObjects (options : PassOptions) (t : CatalogType) : Op CollectError (List Object) := do
  match ← Op.outcome (World.list t.apiResource none options.selector) with
  | .ok os => return os
  | .error err =>
    if err.isForbidden || err.isMethodNotAllowed || err.isNotFound then return []
    else throw (.listResources err t.text)

/-- Goes through the types of a catalog, one after another. -/
def passTypes (options : PassOptions) (policy : Propagation) : List CatalogType → Nat → Op CollectError Nat
  | [], deleted => return deleted
  | t :: ts, deleted => do
    match options.acceptsType t with
    | .error c => throw (.evaluateTypePredicate c t.text)
    | .ok false => passTypes options policy ts deleted
    | .ok true =>
      let os ← listObjects options t
      let deleted ← passObjects options policy t os deleted
      passTypes options policy ts deleted

/-- Deletes every object of a cataloged type that the options accept, and counts them. -/
def run (e : Engine) (options : PassOptions) : Op CollectError Nat := do
  passTypes options (options.propagation.getD e.propagation) (e.catalog (← get)) 0

end Engine
end PlatformOperator
