import PlatformOperator.Remote
import PlatformOperator.World

/-! The calls on a cluster, whoever serves them: a cluster in memory or one behind a connection. -/

namespace PlatformOperator

/-- Who serves calls, with states `σ`. -/
structure Backend (σ : Type) where
  discover : Remote.Op σ ApiError (List DiscoveryList)
  accessRules : («namespace» : String) → Remote.Op σ ApiError (List AccessRule)
  resolve : Gvk → Remote.Op σ ApiError (ApiResource × Scope)
  list : ApiResource → («namespace» selector : Option String) → Remote.Op σ ApiError (List Object)
  getObject : ApiResource → («namespace» : Option String) → (name : String) →
    Remote.Op σ ApiError (Option Object)
  applyObject : ApiResource → Object → Remote.Op σ ApiError Object
  mergePatch : ApiResource → («namespace» : Option String) → (name : String) → (patch : Json) →
    Remote.Op σ ApiError Object
  patchStatus : ApiResource → («namespace» : Option String) → (name : String) → (status : Json) →
    Remote.Op σ ApiError Unit
  delete : ApiResource → («namespace» : Option String) → (name : String) → Propagation →
    Remote.Op σ ApiError Unit

/-- Calls on the cluster of the world. -/
def World.backend : Backend World where
  discover := World.discover
  accessRules := World.accessRules
  resolve := World.resolve
  list := World.list
  getObject := World.getObject
  applyObject := World.applyObject
  mergePatch := World.mergePatch
  patchStatus := World.patchStatus
  delete := World.delete

/-- Calls on a cluster behind a connection. -/
def Remote.backend {σ : Type} (r : Remote σ) : Backend σ where
  discover := r.discover
  accessRules := r.accessRules
  resolve := r.resolve
  list := r.list
  getObject := r.getObject
  applyObject := r.applyObject
  mergePatch := r.mergePatch
  patchStatus := r.patchStatus
  delete := r.delete

end PlatformOperator
