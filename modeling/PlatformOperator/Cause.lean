import PlatformOperator.Api

/-! Causes of failures: each has a text of its own and may rest on another cause. A report gives the
    texts along the chain; a collection reports each of its members. -/

namespace PlatformOperator

inductive Cause where
  | plain (text : String)
  | context (text : String) (source : Cause)
  /-- A reconciliation that ends without a retry. -/
  | stopped (source : Cause)
  /-- A reconciliation that is to be retried. -/
  | retryable (source : Cause)
  | api (error : ApiError)
  | collection (members : List Cause)
  deriving Repr, Inhabited

namespace Cause

/-- A heading over two or more reports; a single report stands alone. -/
def listed : List String → String
  | [report] => report
  | reports =>
    toString reports.length ++ " errors occurred:" ++ String.join (reports.map fun r => "\n\t* " ++ r)

mutual

/-- The texts of the cause and of all it rests on, joined by colons. -/
def fullMessage : Cause → String
  | .plain text => text
  | .context text source => text ++ ": " ++ source.fullMessage
  | .stopped source => "reconciliation stopped: " ++ source.fullMessage
  | .retryable source => "reconciliation action failed: " ++ source.fullMessage
  | .api error => match error.detail? with
    | none => error.text
    | some detail => error.text ++ ": " ++ detail
  | .collection members => listed (fullMessages members)

def fullMessages : List Cause → List String
  | [] => []
  | c :: cs => c.fullMessage :: fullMessages cs

end

/-- The cause's own text. -/
def text : Cause → String
  | .plain text | .context text _ => text
  | .stopped _ => "reconciliation stopped"
  | .retryable _ => "reconciliation action failed"
  | .api error => error.text
  | .collection members => listed (fullMessages members)

/-- All of the causes as one, if there are any. -/
def collect? : List Cause → Option Cause
  | [] => none
  | members => some (.collection members)

end Cause

/-- Failures as reports show them: by the name of their kind and by their cause. -/
class Failure (ε : Type) where
  kindName : ε → String
  cause : ε → Cause

instance : Failure ApiError := ⟨ApiError.kindName, .api⟩

/-- How an action fails. -/
inductive ActionError where
  /-- Ends the run without a retry: only a later change can resolve the cause. -/
  | stop (cause : Cause)
  /-- Ends the run, to be retried after a delay. -/
  | retryable (cause : Cause)
  deriving Repr, Inhabited

namespace ActionError

def cause : ActionError → Cause
  | .stop c | .retryable c => c

def isStop : ActionError → Bool
  | .stop _ => true
  | .retryable _ => false

instance : Failure ActionError := ⟨fun e => if e.isStop then "Stop" else "Retryable", cause⟩

/-- The failure as a cause of further failures. -/
def toCause : ActionError → Cause
  | .stop c => .stopped c
  | .retryable c => .retryable c

end ActionError
end PlatformOperator
