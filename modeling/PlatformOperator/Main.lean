import PlatformOperator.CommandLine
import PlatformOperator.Tracker.Definition

/-! The program: it prints the definitions of the operator's own types, or the settings of a run. -/

open PlatformOperator

/-- The variables of the environment that stand in for options. -/
def runEnvironment : IO (Dict String) := do
  let pairs ← RunOption.all.mapM fun o => do
    return (← IO.getEnv o.environmentName).map (o.environmentName, ·)
  return Dict.ofList (pairs.filterMap id)

def main (arguments : List String) : IO UInt32 := do
  match CommandLine.readCommand (← runEnvironment) arguments with
  | .ok .definitions =>
    IO.print Tracker.definitionText
    return 0
  | .ok (.run settings) =>
    IO.println settings.toJson.text
    return 0
  | .error e =>
    IO.eprintln e.kindName
    return if e = .help then 0 else 2
