import PlatformOperator.Action.Deploy
import PlatformOperator.Feature

/-! Applying a feature and cleaning it up. The tracker comes first: it owns what is applied, its status
    tells how far the application came, and its deletion removes the feature. -/

namespace PlatformOperator

/-- The template variable that holds the target namespace. -/
def targetNamespaceKey : String := "TargetNamespace"

namespace FeatureHook

/-- Runs all steps, in order and whatever fails, and gives the causes of the failures. -/
def runAll {ε : Type} (f : FeatureIdentity) : List FeatureHook → Op ε (List Cause)
  | [] => return []
  | hook :: hooks => do
    match ← Op.outcome (hook f) with
    | .ok () => runAll f hooks
    | .error cause => return cause :: (← runAll f hooks)

end FeatureHook

namespace Feature

def identity (f : Feature) : FeatureIdentity := f.toFeatureIdentity

/-- A feature is enabled unless it says otherwise. -/
def isEnabled (f : Feature) : Except FeatureError Bool :=
  match f.enabled with
  | none => .ok true
  | some enabled => (enabled f.identity).mapError (.evaluateEnabled f.name)

/-! ### The tracker -/

/-- Applies the tracker. The result is the reference to it as an owner, and its status so far. -/
def ensureTracker (f : Feature) : Op FeatureError (OwnerReference × Option TrackerStatus) := do
  let name := f.identity.trackerName
  let tracker := Tracker.ofFeature f.name f.source f.appNamespace f.owner
  let applied ← Op.mapError (.applyTracker name) (World.applyObject Tracker.resource tracker.toObject)
  let some applied := Tracker.ofObject? applied | throw (.convertTracker name)
  let some owner := applied.ownerReference? | throw (.missingTrackerUid name)
  return (owner, applied.status)

def updateTrackerStatus (f : Feature) (status : TrackerStatus) : Op FeatureError Unit :=
  let name := f.identity.trackerName
  Op.mapError (.updateTrackerStatus name) (World.patchStatus Tracker.resource none name status.toJson)

/-- Deletes the tracker; one that does not exist is fine. -/
def removeTracker (f : Feature) : Op FeatureError Unit := do
  let name := f.identity.trackerName
  match ← Op.outcome (World.delete Tracker.resource none name .foreground) with
  | .ok () => return ()
  | .error e => if e.isNotFound then return () else throw (.deleteTracker name e)

/-! ### Objects -/

/-- Whether an existing object is left alone: one that opted out, and unless the feature is managed, one
    that is not marked as managed. -/
def leaves (f : Feature) (existing : Object) : Bool :=
  let marker := existing.metadata.annotation? Marks.managed
  marker == some "false" || (!f.managed && marker != some "true")

/-- The object as the feature applies it: owned by the tracker, and marked if the feature is managed. -/
def owned (f : Feature) (tracker : OwnerReference) (o : Object) : Object :=
  o.mapMeta fun m =>
    let m := if f.managed then m.annotate Marks.managed "true" else m
    { m with ownerReferences := some ((m.owners.filter (·.uid != tracker.uid)) ++ [tracker]) }

/-- Creates an object, or updates it unless it is left alone. -/
def createOrUpdate (f : Feature) (tracker : OwnerReference) (resource : ApiResource) (o : Object) :
    Op FeatureError Unit := do
  let existing ← Op.mapError (.getObject resource.kind o.name)
    (World.getObject resource o.metadata.namespace o.name)
  if existing.any f.leaves then return ()
  let _ ← Op.mapError (.applyObject resource.kind o.name) (World.applyObject resource (f.owned tracker o))

/-- Merges an object into the existing one. -/
def patchObject (resource : ApiResource) (o : Object) : Op FeatureError Unit := do
  let _ ← Op.mapError (.patchObject resource.kind o.name)
    (World.mergePatch resource o.metadata.namespace o.name o.toJson)

/-- Applies an object of a manifest, or merges it if the manifest is a patch. -/
def applyObject (f : Feature) (tracker : OwnerReference) (m : Manifest) (o : Object) : Op FeatureError Unit := do
  let some gvk := o.gvk? | throw (.missingType m.name o.name)
  let (resource, scope) ← Op.mapError (.resolveResource gvk.kind) (World.resolve gvk)
  let o := Deploy.placed scope f.targetNamespace o
  if m.isPatch then patchObject resource o else f.createOrUpdate tracker resource o

/-- Applies the objects of a manifest in order. -/
def applyObjects (f : Feature) (tracker : OwnerReference) (m : Manifest) : List Object → Op FeatureError Unit
  | [] => return ()
  | o :: os => do
    f.applyObject tracker m o
    f.applyObjects tracker m os

/-- Applies manifests in order, all with the same data. -/
def applyManifests (f : Feature) (tracker : OwnerReference) (data : Dict Json) :
    List Manifest → Op FeatureError Unit
  | [] => return ()
  | m :: ms => do
    match m.process data with
    | .error e => throw (.processManifest m.name e)
    | .ok os =>
      f.applyObjects tracker m os
      f.applyManifests tracker data ms

/-! ### The protocol -/

/-- Loads variables one after another onto `data`; a later one wins over an earlier one. -/
def loadData (f : Feature) (data : Dict Json) :
    List (String × (FeatureIdentity → Op Cause Json)) → Op FeatureError (Dict Json)
  | [] => return data
  | (key, load) :: rest => do
    let v ← Op.mapError (.loadTemplateData f.name key) (load f.identity)
    f.loadData (data.insert key v) rest

/-- Runs the creators of resources up to the first failure. -/
def createResources (f : Feature) : List FeatureHook → Op FeatureError Unit
  | [] => return ()
  | hook :: hooks => do
    Op.mapError (.resourceCreation f.name) (hook f.identity)
    f.createResources hooks

/-- What comes before the manifests: all preconditions, the data for templates, and the resources. -/
def prepare (f : Feature) : Op FeatureError (Dict Json) := do
  let unmet ← FeatureHook.runAll f.identity f.preconditions
  if unmet ≠ [] then throw (.preConditions f.name unmet)
  let data ← f.loadData [(targetNamespaceKey, .str f.targetNamespace)] f.data
  f.createResources f.resources
  return data

/-- Fails unless all postconditions are met. -/
def verify (f : Feature) : Op FeatureError Unit := do
  let unmet ← FeatureHook.runAll f.identity f.postconditions
  if unmet ≠ [] then throw (.postConditions f.name unmet)

/-- The steps of an application: the preparations, the manifests, and all postconditions. -/
def applySteps (f : Feature) (tracker : OwnerReference) : Op FeatureError Unit := do
  let data ← f.prepare
  f.applyManifests tracker data f.manifests
  f.verify

/-- Runs all cleanups and removes the tracker with all that it owns. Failed cleanups are reported first. -/
def cleanup (f : Feature) : Op FeatureError Unit := do
  let failed ← FeatureHook.runAll f.identity f.cleanups
  let removed ← Op.outcome f.removeTracker
  if failed ≠ [] then throw (.cleanup f.name failed)
  match removed with
  | .ok () => return ()
  | .error e => throw e

/-- Reports in the status of the tracker that the application is under way. -/
def announce (f : Feature) (previous : Option TrackerStatus) : Op FeatureError TrackerStatus := do
  let progressing ← Op.timed (TrackerStatus.progressing f.name previous)
  f.updateTrackerStatus progressing
  return progressing

/-- Reports in the status of the tracker how the application ended. -/
def report (f : Feature) (progressing : TrackerStatus) (outcome : Except FeatureError Unit) :
    Op FeatureError Unit := do
  let status ← Op.timed <| match outcome with
    | .ok () => progressing.ready f.name
    | .error e => progressing.failed f.name e.step e.cause.fullMessage
  f.updateTrackerStatus status

/-- Applies the feature under its tracker, and reports progress and outcome in the status of that. -/
def applyTracked (f : Feature) (tracker : OwnerReference) (previous : Option TrackerStatus) :
    Op FeatureError Unit := do
  let progressing ← f.announce previous
  let outcome ← Op.outcome (f.applySteps tracker)
  let reported ← Op.outcome (f.report progressing outcome)
  match outcome, reported with
  | .ok (), .ok () => return ()
  | .error e, _ | .ok (), .error e => throw e

/-- Applies the feature; a disabled one is cleaned up. -/
def apply (f : Feature) : Op FeatureError Unit := do
  match f.isEnabled with
  | .error e => throw e
  | .ok false => f.cleanup
  | .ok true =>
    let (tracker, previous) ← f.ensureTracker
    f.applyTracked tracker previous

end Feature
end PlatformOperator
