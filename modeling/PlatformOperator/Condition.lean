import PlatformOperator.Object.Meta

/-! Status conditions: observations on a resource, each of a type of its own. -/

namespace PlatformOperator

inductive ConditionStatus where
  | true
  | false
  | unknown
  deriving DecidableEq, Repr

instance : Inhabited ConditionStatus := ⟨.unknown⟩

namespace ConditionStatus

def text : ConditionStatus → String
  | .true => "True"
  | .false => "False"
  | .unknown => "Unknown"

def all : List ConditionStatus := [.true, .false, .unknown]

def ofText? (s : String) : Option ConditionStatus := all.find? (·.text == s)

end ConditionStatus

/-- How much a condition that is not True counts: only errors make a resource unhappy. -/
inductive Severity where
  | error
  | warning
  | info
  deriving DecidableEq, Repr

instance : Inhabited Severity := ⟨.error⟩

namespace Severity

def text : Severity → String
  | .error => "Error"
  | .warning => "Warning"
  | .info => "Info"

def all : List Severity := [.error, .warning, .info]

def ofText? (s : String) : Option Severity := all.find? (·.text == s)

end Severity

structure Condition where
  type : String
  status : ConditionStatus
  /-- The generation of the resource that was observed. -/
  observedGeneration : Option Int := none
  /-- When the status last changed. -/
  lastTransitionTime : Option Timestamp := none
  lastHeartbeatTime : Option Timestamp := none
  reason : Option String := none
  message : Option String := none
  severity : Severity := .error
  deriving DecidableEq, Repr, Inhabited

namespace Condition
open Json

def ofJson? (j : Json) : Option Condition := do
  let fields ← j.fields? ["type", "status", "observedGeneration", "lastTransitionTime", "lastHeartbeatTime",
    "reason", "message", "severity"]
  return {
    type := ← required fields "type" str?
    status := ← required fields "status" fun j => j.constant?.bind ConditionStatus.ofText?
    observedGeneration := ← optional fields "observedGeneration" (signed? 64)
    lastTransitionTime := ← optional fields "lastTransitionTime" time?
    lastHeartbeatTime := ← optional fields "lastHeartbeatTime" time?
    reason := ← optional fields "reason" str?
    message := ← optional fields "message" str?
    severity := ← defaulted fields "severity" .error fun j => j.constant?.bind Severity.ofText? }

/-- The default severity is not written. -/
def toJson (c : Condition) : Json :=
  .ofPresent [("type", some (.str c.type)), ("status", some (.str c.status.text)),
    ("observedGeneration", c.observedGeneration.map .int),
    ("lastTransitionTime", c.lastTransitionTime.map fun t => .str t.text),
    ("lastHeartbeatTime", c.lastHeartbeatTime.map fun t => .str t.text), ("reason", c.reason.map .str),
    ("message", c.message.map .str),
    ("severity", if c.severity = .error then none else some (.str c.severity.text))]

/-- Takes over what `c` observed. The transition time moves only with the status: to the time that `c`
    gives, else to `now`. The result tells whether anything but times differed. -/
def update (old c : Condition) (now : Timestamp) : Bool × Condition :=
  (old.status != c.status || old.reason != c.reason || old.message != c.message ||
      old.observedGeneration != c.observedGeneration || old.severity != c.severity,
    { old with
      status := c.status
      lastTransitionTime :=
        if old.status = c.status then old.lastTransitionTime else some (c.lastTransitionTime.getD now)
      reason := c.reason
      message := c.message
      observedGeneration := c.observedGeneration
      severity := c.severity })

/-! ### Types, reasons and phases -/

def ready : String := "Ready"
def provisioningSucceeded : String := "ProvisioningSucceeded"
def deploymentsAvailable : String := "DeploymentsAvailable"
def progressing : String := "Progressing"
def available : String := "Available"
def degraded : String := "Degraded"

def reasonError : String := "Error"
def reasonStopped : String := "Stopped"
def reasonDeploymentsNotReady : String := "DeploymentsNotReady"

def phaseReady : String := "Ready"
def phaseNotReady : String := "Not Ready"
def phaseError : String := "Error"
def phaseProgressing : String := "Progressing"

end Condition

/-- Details of a condition to be marked. -/
structure ConditionDetails where
  reason : Option String := none
  message : Option String := none
  observedGeneration : Option Int := none
  severity : Option Severity := none
  deriving DecidableEq, Repr, Inhabited

end PlatformOperator
