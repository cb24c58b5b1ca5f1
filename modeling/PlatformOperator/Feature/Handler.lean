import PlatformOperator.Feature.Application

/-! The features of one source, applied and deleted together. -/

namespace PlatformOperator

structure FeaturesHandler where
  source : FeatureSource
  appNamespace : String
  /-- The owner of all trackers. -/
  owner : Option OwnerReference
  features : List Feature := []

namespace FeaturesHandler

/-- The definition with what it leaves open filled in. -/
def completed (h : FeaturesHandler) (d : FeatureDefinition) : FeatureDefinition := { d with
  source := if d.source = {} then h.source else d.source
  targetNamespace := d.targetNamespace <|> some h.appNamespace
  appNamespace := d.appNamespace <|> some h.appNamespace
  owner := d.owner <|> h.owner
  hasClient := true }

/-- Creates a feature and adds it behind the others. -/
def add (h : FeaturesHandler) (d : FeatureDefinition) : Except FeatureError FeaturesHandler := do
  return { h with features := h.features ++ [← (h.completed d).create] }

/-- Adds features one after another, and gives the failures; a definition in error adds none. -/
def addAll (h : FeaturesHandler) : List FeatureDefinition → FeaturesHandler × List (Option FeatureError)
  | [] => (h, [])
  | d :: ds =>
    match h.add d with
    | .ok h =>
      let (h, failures) := h.addAll ds
      (h, none :: failures)
    | .error e =>
      let (h, failures) := h.addAll ds
      (h, some e :: failures)

/-- Runs `f` for features one after another and gives the failures. -/
def collect {ε : Type} (f : Feature → Op FeatureError Unit) : List Feature → Op ε (List FeatureError)
  | [] => return []
  | feature :: features => do
    match ← Op.outcome (f feature) with
    | .ok () => collect f features
    | .error e => return e :: (← collect f features)

/-- Applies all features in order. One that fails keeps no other from being applied. -/
def apply {ε : Type} (h : FeaturesHandler) : Op ε (List FeatureError) := collect Feature.apply h.features

/-- Cleans up all features, the last one first. -/
def delete {ε : Type} (h : FeaturesHandler) : Op ε (List FeatureError) := collect Feature.cleanup h.features.reverse

end FeaturesHandler
end PlatformOperator
