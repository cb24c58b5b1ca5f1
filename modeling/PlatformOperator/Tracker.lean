import PlatformOperator.Object
import PlatformOperator.Tracker.Status

/-! Feature trackers: cluster objects that stand for an applied feature and own what it created, so that
    deleting the tracker deletes the feature. -/

namespace PlatformOperator
open Json

/-- What kind of thing defines a feature. -/
inductive SourceType where
  | component
  | initialization
  | unknown
  deriving DecidableEq, Repr

instance : Inhabited SourceType := ⟨.unknown⟩

namespace SourceType

def text : SourceType → String
  | .component => "Component"
  | .initialization => "DSCI"
  | .unknown => "Unknown"

def all : List SourceType := [.component, .initialization, .unknown]

def ofText? (s : String) : Option SourceType := all.find? (·.text == s)

end SourceType

/-- What defines a feature. -/
structure FeatureSource where
  type : SourceType := .unknown
  name : String := ""
  deriving DecidableEq, Repr, Inhabited

namespace FeatureSource

def ofJson? (j : Json) : Option FeatureSource := do
  let fields ← j.fields? ["type", "name"]
  return {
    type := ← required fields "type" fun j => j.constant?.bind SourceType.ofText?
    name := ← required fields "name" str? }

def toJson (s : FeatureSource) : Json := .ofPairs [("type", .str s.type.text), ("name", .str s.name)]

end FeatureSource

structure Tracker where
  metadata : ObjectMeta
  source : FeatureSource
  appNamespace : String
  status : Option TrackerStatus
  deriving DecidableEq, Repr, Inhabited

namespace Tracker

/-- The type of trackers. They are cluster objects. -/
def resource : ApiResource := ⟨"features.opendatahub.io", "v1", "FeatureTracker", "featuretrackers"⟩

/-- The applications namespace in the name keeps features of different installations apart. -/
def nameFor (appNamespace feature : String) : String := appNamespace ++ "-" ++ feature

/-- The tracker of a feature that has none yet. -/
def ofFeature (feature : String) (source : FeatureSource) (appNamespace : String) (owner : Option OwnerReference) :
    Tracker where
  metadata := { name := some (nameFor appNamespace feature), ownerReferences := owner.map ([·]) }
  source
  appNamespace
  status := none

def toObject (t : Tracker) : Object where
  types := some ⟨resource.apiVersion, resource.kind⟩
  metadata := t.metadata
  content := Dict.ofList <|
    ("spec", Json.ofPairs [("source", t.source.toJson), ("appNamespace", .str t.appNamespace)]) ::
      (t.status.map fun s => ("status", s.toJson)).toList

/-- Reads a tracker; the type of the object does not matter. -/
def ofObject? (o : Object) : Option Tracker := do
  let (source, appNamespace) ← required o.content "spec" fun spec => do
    let fields ← spec.fields? ["source", "appNamespace"]
    return (← required fields "source" FeatureSource.ofJson?, ← required fields "appNamespace" str?)
  let status ← optional o.content "status" TrackerStatus.ofJson?
  return { metadata := o.metadata, source, appNamespace, status }

/-- The reference that makes the tracker an owner, but no controller, of an object. -/
def ownerReference? (t : Tracker) : Option OwnerReference :=
  t.metadata.uid.map fun uid =>
    { apiVersion := resource.apiVersion, kind := resource.kind, name := t.metadata.nameAny, uid,
      controller := none, blockOwnerDeletion := none }

end Tracker
end PlatformOperator
