import PlatformOperator.Config
import PlatformOperator.Object
import PlatformOperator.Status
import PlatformOperator.Text.Case

/-! Instances of platform resources: what a reconciliation is about. -/

namespace PlatformOperator
open Json

/-- An instance of the platform resource type `resource`. -/
structure Instance where
  resource : ApiResource
  metadata : ObjectMeta
  devFlags : Option DevFlags
  status : Option PlatformStatus
  deriving DecidableEq, Repr, Inhabited

namespace Instance

/-- The type of dashboards. -/
def dashboards : ApiResource :=
  ⟨"components.platform.opendatahub.io", "v1alpha1", "Dashboard", "dashboards"⟩

/-- Reads an instance; its own type information does not matter. -/
def ofJson? (resource : ApiResource) (j : Json) : Option Instance := do
  let fields ← j.fields? ["metadata", "spec", "status"]
  let metadata ← required fields "metadata" ObjectMeta.ofJson?
  let devFlags ← required fields "spec" fun spec => do
    optional (← spec.fields? ["devFlags"]) "devFlags" DevFlags.ofJson?
  let status ← optional fields "status" PlatformStatus.ofJson?
  return ⟨resource, metadata, devFlags, status⟩

def toJson (i : Instance) : Json :=
  .ofPresent [("apiVersion", some (.str i.resource.apiVersion)), ("kind", some (.str i.resource.kind)),
    ("metadata", some i.metadata.toJson), ("spec", some (.ofPresent [("devFlags", i.devFlags.map DevFlags.toJson)])),
    ("status", i.status.map PlatformStatus.toJson)]

def name (i : Instance) : String := i.metadata.nameAny

def generation (i : Instance) : Int := i.metadata.generation.getD 0

/-- The conditions of the status, none where there is no status. -/
def conditions (i : Instance) : List Condition := (i.status.map (·.conditions)).getD []

/-- The reference that makes the instance the controlling owner of an object, if it has a name and a UID. -/
def controllerReference? (i : Instance) : Option OwnerReference := do
  return {
    apiVersion := i.resource.apiVersion
    kind := i.resource.kind
    name := ← i.metadata.name
    uid := ← i.metadata.uid
    controller := some true
    blockOwnerDeletion := none }

/-- The kind in lower case, as labels carry it. -/
def label (i : Instance) : String := Text.lower i.resource.kind

end Instance
end PlatformOperator
