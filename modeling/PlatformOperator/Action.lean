import PlatformOperator.Request

/-! Actions, and pipelines that run them one after another up to the first failure. -/

namespace PlatformOperator

/-- One step of a reconciliation. -/
structure Action where
  name : String
  run : RunM Unit

/-- Why a list of actions is no pipeline. -/
inductive PipelineError where
  | noActions (pipeline : String)
  | duplicateAction (pipeline action : String)
  deriving DecidableEq, Repr

def PipelineError.text : PipelineError → String
  | .noActions p => "pipeline " ++ Text.quoted p ++ " has no actions"
  | .duplicateAction p a => "action " ++ Text.quoted a ++ " is registered twice in pipeline " ++ Text.quoted p

instance : Failure PipelineError where
  kindName
    | .noActions _ => "NoActions"
    | .duplicateAction .. => "DuplicateAction"
  cause e := .plain e.text

structure Pipeline where
  name : String
  actions : List Action

namespace Pipeline

/-- The first name that occurs before. -/
def duplicate? (seen : List String) : List String → Option String
  | [] => none
  | n :: ns => if n ∈ seen then some n else duplicate? (n :: seen) ns

/-- A pipeline has at least one action, and their names differ. -/
def build (name : String) (actions : List Action) : Except PipelineError Pipeline :=
  if actions.isEmpty then .error (.noActions name)
  else match duplicate? [] (actions.map (·.name)) with
    | some a => .error (.duplicateAction name a)
    | none => .ok ⟨name, actions⟩

def runAll : List Action → RunM Unit
  | [] => pure ()
  | a :: as => do
    a.run
    runAll as

/-- Runs the actions in order; none after a failing one. -/
def run (p : Pipeline) : RunM Unit := runAll p.actions

/-- `Pipeline`, its name and the names of its actions. -/
def text (p : Pipeline) : String :=
  "Pipeline \x7b name: " ++ Text.quoted p.name ++ ", actions: [" ++
    String.intercalate ", " (p.actions.map fun a => Text.quoted a.name) ++ "] \x7d"

end Pipeline
end PlatformOperator
