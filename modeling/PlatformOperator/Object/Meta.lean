import PlatformOperator.Json.Record
import PlatformOperator.Time

/-! The metadata of an object, and how it is read from and written to JSON. -/

namespace PlatformOperator

/-- Reads the text of a point in time. -/
def Json.time? : Json → Option Timestamp
  | .str s => Timestamp.ofText? s
  | _ => none

/-- A reference to an object that owns another one. -/
structure OwnerReference where
  apiVersion : String
  kind : String
  name : String
  uid : String
  controller : Option Bool
  blockOwnerDeletion : Option Bool
  deriving DecidableEq, Repr, Inhabited

namespace OwnerReference
open Json

/-- A missing text of the reference reads as empty. -/
def ofJson? : Json → Option OwnerReference
  | .obj ms => do
    let text (name : String) : Option String := (optional ms name str?).map (·.getD "")
    return {
      apiVersion := ← text "apiVersion"
      kind := ← text "kind"
      name := ← text "name"
      uid := ← text "uid"
      controller := ← optional ms "controller" bool?
      blockOwnerDeletion := ← optional ms "blockOwnerDeletion" bool? }
  | _ => none

def toJson (o : OwnerReference) : Json :=
  .ofPresent [("apiVersion", some (.str o.apiVersion)), ("blockOwnerDeletion", o.blockOwnerDeletion.map .bool),
    ("controller", o.controller.map .bool), ("kind", some (.str o.kind)), ("name", some (.str o.name)),
    ("uid", some (.str o.uid))]

end OwnerReference

/-- Who wrote which fields of an object. -/
structure ManagedFields where
  apiVersion : Option String
  fieldsType : Option String
  fieldsV1 : Option Json
  manager : Option String
  operation : Option String
  subresource : Option String
  time : Option Timestamp
  deriving DecidableEq, Repr, Inhabited

namespace ManagedFields
open Json

def ofJson? : Json → Option ManagedFields
  | .obj ms => do
    return {
      apiVersion := ← optional ms "apiVersion" str?
      fieldsType := ← optional ms "fieldsType" str?
      fieldsV1 := ← optional ms "fieldsV1" some
      manager := ← optional ms "manager" str?
      operation := ← optional ms "operation" str?
      subresource := ← optional ms "subresource" str?
      time := ← optional ms "time" time? }
  | _ => none

def toJson (m : ManagedFields) : Json :=
  .ofPresent [("apiVersion", m.apiVersion.map .str), ("fieldsType", m.fieldsType.map .str), ("fieldsV1", m.fieldsV1),
    ("manager", m.manager.map .str), ("operation", m.operation.map .str), ("subresource", m.subresource.map .str),
    ("time", m.time.map fun t => .str t.text)]

end ManagedFields

structure ObjectMeta where
  annotations : Option (Dict String) := none
  creationTimestamp : Option Timestamp := none
  deletionGracePeriodSeconds : Option Int := none
  deletionTimestamp : Option Timestamp := none
  finalizers : Option (List String) := none
  generateName : Option String := none
  generation : Option Int := none
  labels : Option (Dict String) := none
  managedFields : Option (List ManagedFields) := none
  name : Option String := none
  «namespace» : Option String := none
  ownerReferences : Option (List OwnerReference) := none
  resourceVersion : Option String := none
  selfLink : Option String := none
  uid : Option String := none
  deriving DecidableEq, Repr, Inhabited

namespace ObjectMeta
open Json

/-- The names of the members of metadata. -/
def memberNames : List String :=
  ["annotations", "creationTimestamp", "deletionGracePeriodSeconds", "deletionTimestamp", "finalizers", "generateName",
    "generation", "labels", "managedFields", "name", "namespace", "ownerReferences", "resourceVersion", "selfLink",
    "uid"]

/-- Unknown members are dropped, a wrong type of a known one is refused. -/
def ofJson? : Json → Option ObjectMeta
  | .obj ms => do
    return {
      annotations := ← optional ms "annotations" (dict? str?)
      creationTimestamp := ← optional ms "creationTimestamp" time?
      deletionGracePeriodSeconds := ← optional ms "deletionGracePeriodSeconds" (signed? 64)
      deletionTimestamp := ← optional ms "deletionTimestamp" time?
      finalizers := ← optional ms "finalizers" (list? str?)
      generateName := ← optional ms "generateName" str?
      generation := ← optional ms "generation" (signed? 64)
      labels := ← optional ms "labels" (dict? str?)
      managedFields := ← optional ms "managedFields" (list? ManagedFields.ofJson?)
      name := ← optional ms "name" str?
      «namespace» := ← optional ms "namespace" str?
      ownerReferences := ← optional ms "ownerReferences" (list? OwnerReference.ofJson?)
      resourceVersion := ← optional ms "resourceVersion" str?
      selfLink := ← optional ms "selfLink" str?
      uid := ← optional ms "uid" str? }
  | _ => none

def toJson (m : ObjectMeta) : Json :=
  .ofPresent [("annotations", m.annotations.map (ofDict .str)),
    ("creationTimestamp", m.creationTimestamp.map fun t => .str t.text),
    ("deletionGracePeriodSeconds", m.deletionGracePeriodSeconds.map .int),
    ("deletionTimestamp", m.deletionTimestamp.map fun t => .str t.text),
    ("finalizers", m.finalizers.map fun fs => .arr (fs.map .str)), ("generateName", m.generateName.map .str),
    ("generation", m.generation.map .int), ("labels", m.labels.map (ofDict .str)),
    ("managedFields", m.managedFields.map fun fs => .arr (fs.map ManagedFields.toJson)), ("name", m.name.map .str),
    ("namespace", m.namespace.map .str),
    ("ownerReferences", m.ownerReferences.map fun os => .arr (os.map OwnerReference.toJson)),
    ("resourceVersion", m.resourceVersion.map .str), ("selfLink", m.selfLink.map .str), ("uid", m.uid.map .str)]

/-- The name, else the name to be generated from, else nothing. -/
def nameAny (m : ObjectMeta) : String := (m.name <|> m.generateName).getD ""

def annotation? (m : ObjectMeta) (key : String) : Option String := m.annotations.bind (·.get? key)

def label? (m : ObjectMeta) (key : String) : Option String := m.labels.bind (·.get? key)

def annotate (key value : String) (m : ObjectMeta) : ObjectMeta :=
  { m with annotations := some ((m.annotations.getD []).insert key value) }

def setLabel (key value : String) (m : ObjectMeta) : ObjectMeta :=
  { m with labels := some ((m.labels.getD []).insert key value) }

/-- The finalizers, none where the list is missing. -/
def finalizerList (m : ObjectMeta) : List String := m.finalizers.getD []

/-- The owners, none where the list is missing. -/
def owners (m : ObjectMeta) : List OwnerReference := m.ownerReferences.getD []

def isTerminating (m : ObjectMeta) : Bool := m.deletionTimestamp.isSome

end ObjectMeta
end PlatformOperator
