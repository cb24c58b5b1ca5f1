import PlatformOperator.Manifest
import PlatformOperator.Tracker
import PlatformOperator.World

/-! Features: manifests that are applied and removed as a unit, gated by conditions before and after, and
    the definitions they are created from. -/

namespace PlatformOperator

/-- What a feature is, apart from what it runs. -/
structure FeatureIdentity where
  name : String
  source : FeatureSource := {}
  targetNamespace : String
  /-- The namespace that the tracker is named by. -/
  appNamespace : String
  /-- Applied objects are marked as managed and always overwritten. -/
  managed : Bool := false
  /-- The owner of the tracker. -/
  owner : Option OwnerReference := none
  deriving DecidableEq, Repr, Inhabited

def FeatureIdentity.trackerName (f : FeatureIdentity) : String := Tracker.nameFor f.appNamespace f.name

/-- A step run for a feature. -/
abbrev FeatureHook := FeatureIdentity → Op Cause Unit

/-- What a feature runs: the variables of its templates, whether it is enabled, and its steps. -/
structure FeaturePlan where
  manifests : List Manifest := []
  data : List (String × (FeatureIdentity → Op Cause Json)) := []
  enabled : Option (FeatureIdentity → Except Cause Bool) := none
  resources : List FeatureHook := []
  preconditions : List FeatureHook := []
  postconditions : List FeatureHook := []
  cleanups : List FeatureHook := []

structure Feature extends FeatureIdentity, FeaturePlan

/-- How the creation, application or removal of a feature fails. -/
inductive FeatureError where
  | missingClient (feature : String)
  | missingTargetNamespace (feature : String)
  | evaluateEnabled (feature : String) (cause : Cause)
  | preConditions (feature : String) (causes : List Cause)
  | loadTemplateData (feature key : String) (cause : Cause)
  | resourceCreation (feature : String) (cause : Cause)
  | processManifest (manifest : String) (error : ManifestError)
  | missingType (manifest name : String)
  | resolveResource (kind : String) (error : ApiError)
  | getObject (kind name : String) (error : ApiError)
  | applyObject (kind name : String) (error : ApiError)
  | patchObject (kind name : String) (error : ApiError)
  | postConditions (feature : String) (causes : List Cause)
  | cleanup (feature : String) (causes : List Cause)
  | convertTracker (name : String)
  | applyTracker (name : String) (error : ApiError)
  | missingTrackerUid (name : String)
  | updateTrackerStatus (name : String) (error : ApiError)
  | deleteTracker (name : String) (error : ApiError)
  deriving Repr, Inhabited

namespace FeatureError
open Text (quoted)

def cause : FeatureError → Cause
  | .missingClient f => .plain ("feature " ++ quoted f ++ " has no client to talk to the cluster")
  | .missingTargetNamespace f => .plain ("feature " ++ quoted f ++ " has no target namespace")
  | .evaluateEnabled f c => .context ("failed to evaluate whether feature " ++ quoted f ++ " is enabled") c
  | .preConditions f cs => .context ("preconditions of feature " ++ quoted f ++ " are not met") (.collection cs)
  | .loadTemplateData f k c =>
    .context ("failed to load template data " ++ quoted k ++ " of feature " ++ quoted f) c
  | .resourceCreation f c => .context ("failed to create resources of feature " ++ quoted f) c
  | .processManifest m e => .context ("failed to process manifest " ++ quoted m) e.cause
  | .missingType m n => .plain ("object " ++ quoted n ++ " of manifest " ++ quoted m ++ " has no apiVersion or kind")
  | .resolveResource k e => .context ("failed to resolve the API resource of " ++ k) (.api e)
  | .getObject k n e => .context ("failed to look up " ++ k ++ " " ++ quoted n) (.api e)
  | .applyObject k n e => .context ("failed to apply " ++ k ++ " " ++ quoted n) (.api e)
  | .patchObject k n e => .context ("failed to patch " ++ k ++ " " ++ quoted n) (.api e)
  | .postConditions f cs => .context ("postconditions of feature " ++ quoted f ++ " are not met") (.collection cs)
  | .cleanup f cs => .context ("failed to clean up feature " ++ quoted f) (.collection cs)
  | .convertTracker n => .context ("failed to convert FeatureTracker " ++ quoted n) (.plain "<json>")
  | .applyTracker n e => .context ("failed to apply FeatureTracker " ++ quoted n) (.api e)
  | .missingTrackerUid n => .plain ("FeatureTracker " ++ quoted n ++ " was applied without a UID")
  | .updateTrackerStatus n e => .context ("failed to update the status of FeatureTracker " ++ quoted n) (.api e)
  | .deleteTracker n e => .context ("failed to delete FeatureTracker " ++ quoted n) (.api e)

def kindName : FeatureError → String
  | .missingClient _ => "MissingClient"
  | .missingTargetNamespace _ => "MissingTargetNamespace"
  | .evaluateEnabled .. => "EvaluateEnabled"
  | .preConditions .. => "PreConditions"
  | .loadTemplateData .. => "LoadTemplateData"
  | .resourceCreation .. => "ResourceCreation"
  | .processManifest .. => "ProcessManifest"
  | .missingType .. => "MissingType"
  | .resolveResource .. => "ResolveResource"
  | .getObject .. => "GetObject"
  | .applyObject .. => "ApplyObject"
  | .patchObject .. => "PatchObject"
  | .postConditions .. => "PostConditions"
  | .cleanup .. => "Cleanup"
  | .convertTracker _ => "ConvertTracker"
  | .applyTracker .. => "ApplyTracker"
  | .missingTrackerUid _ => "MissingTrackerUid"
  | .updateTrackerStatus .. => "UpdateTrackerStatus"
  | .deleteTracker .. => "DeleteTracker"

instance : Failure FeatureError := ⟨kindName, cause⟩

/-- The step of the application that failed. -/
def step : FeatureError → ApplyStep
  | .preConditions .. => .preConditions
  | .loadTemplateData .. => .loadTemplateData
  | .resourceCreation .. => .resourceCreation
  | .processManifest .. | .missingType .. | .resolveResource .. | .getObject .. | .applyObject .. | .patchObject .. =>
    .applyManifests
  | .postConditions .. => .postConditions
  | _ => .failedApplying

end FeatureError

/-- What a feature is created from; a handler can fill in what is left open. -/
structure FeatureDefinition where
  name : String
  plan : FeaturePlan
  hasClient : Bool := false
  source : FeatureSource := {}
  targetNamespace : Option String := none
  appNamespace : Option String := none
  managed : Bool := false
  owner : Option OwnerReference := none

/-- Creates the feature. It needs a client and a target namespace, which also is its applications namespace
    unless that is given. -/
def FeatureDefinition.create (d : FeatureDefinition) : Except FeatureError Feature := do
  if !d.hasClient then throw (.missingClient d.name)
  let some target := d.targetNamespace.filter (· != "") | throw (.missingTargetNamespace d.name)
  let app := d.appNamespace.getD target
  if app = "" then throw (.missingTargetNamespace d.name)
  return { d.plan with
    name := d.name, source := d.source, targetNamespace := target, appNamespace := app, managed := d.managed
    owner := d.owner }

end PlatformOperator
