import PlatformOperator.Condition

/-! The status of platform resources. -/

namespace PlatformOperator
open Json

structure PlatformStatus where
  phase : Option String := none
  /-- The generation last reconciled with success. -/
  observedGeneration : Option Int := none
  conditions : List Condition := []
  deriving DecidableEq, Repr, Inhabited

namespace PlatformStatus

def ofJson? (j : Json) : Option PlatformStatus := do
  let fields ← j.fields? ["phase", "observedGeneration", "conditions"]
  return {
    phase := ← optional fields "phase" str?
    observedGeneration := ← optional fields "observedGeneration" (signed? 64)
    conditions := ← defaulted fields "conditions" [] (list? Condition.ofJson?) }

/-- No conditions are not written. -/
def toJson (s : PlatformStatus) : Json :=
  .ofPresent [("phase", s.phase.map .str), ("observedGeneration", s.observedGeneration.map .int),
    ("conditions", if s.conditions = [] then none else some (.arr (s.conditions.map Condition.toJson)))]

end PlatformStatus
end PlatformOperator
