import PlatformOperator.Action
import PlatformOperator.Feature.Handler

/-! Applying features as an action of a reconciliation. -/

namespace PlatformOperator

/-- Which features an action applies, and where it reports the outcome. -/
structure FeatureSet where
  name : String
  sourceType : SourceType := .component
  /-- The condition that tells the outcome. -/
  condition : Option String := none
  /-- Adds the features to the handler. -/
  register : Request → FeaturesHandler → Except FeatureError FeaturesHandler

namespace Action

/-- Applies the features of a set, owned by the instance. A definition in error stops the reconciliation,
    a failed application is retried. -/
def features (s : FeatureSet) : Action where
  name := s.name
  run := do
    let r ← RunM.request
    let handler : FeaturesHandler :=
      { source := { type := s.sourceType, name := r.subject.name }
        appNamespace := r.config.applicationsNamespace
        owner := r.subject.controllerReference? }
    match s.register r handler with
    | .error e => throw (.stop e.cause)
    | .ok handler =>
      let failures ← RunM.ofOp id handler.apply
      let failure := Cause.collect? (failures.map FeatureError.cause)
      match s.condition with
      | none => pure ()
      | some t => RunM.modifyConditions fun m => match failure with
        | none => m.mark t .true {}
        | some c => m.mark t .false (({} : ConditionDetails).failed c)
      match failure with
      | none => return ()
      | some c => throw (.retryable c)

end Action
end PlatformOperator
