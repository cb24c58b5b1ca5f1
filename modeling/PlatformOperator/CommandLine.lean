import PlatformOperator.Api
import PlatformOperator.Release

/-! The command line of an operator: its commands, the arguments of a run, and the variables of the
    environment that stand in for arguments. -/

namespace PlatformOperator

/-- Why a command line is refused. Asking for help counts as a refusal, too. -/
inductive CommandLineError where
  | help
  | missingCommand
  | unknownCommand
  | unknownArgument
  | missingArgument
  | repeatedArgument
  /-- The value is missing, or none of the possible ones. -/
  | invalidValue
  /-- The value cannot be read. -/
  | unreadableValue
  | unneededValue
  deriving DecidableEq, Repr, Inhabited

def CommandLineError.kindName : CommandLineError → String
  | .help => "DisplayHelp"
  | .missingCommand => "DisplayHelpOnMissingArgumentOrSubcommand"
  | .unknownCommand => "InvalidSubcommand"
  | .unknownArgument => "UnknownArgument"
  | .missingArgument => "MissingRequiredArgument"
  | .repeatedArgument => "ArgumentConflict"
  | .invalidValue => "InvalidValue"
  | .unreadableValue => "ValueValidation"
  | .unneededValue => "TooManyValues"

/-- The settings of a run. -/
inductive RunOption where
  | operatorNamespace
  | applicationsNamespace
  | platform
  | platformVersion
  | propagation
  | fieldManager
  deriving DecidableEq, Repr, Inhabited

namespace RunOption

/-- In the order in which variables are read. -/
def all : List RunOption :=
  [.operatorNamespace, .applicationsNamespace, .platform, .platformVersion, .propagation, .fieldManager]

/-- The name after two dashes. -/
def name : RunOption → String
  | .operatorNamespace => "operator-namespace"
  | .applicationsNamespace => "applications-namespace"
  | .platform => "platform"
  | .platformVersion => "platform-version"
  | .propagation => "gc-propagation-policy"
  | .fieldManager => "field-manager"

/-- The variable of the environment. -/
def environmentName : RunOption → String
  | .operatorNamespace => "OPERATOR_NAMESPACE"
  | .applicationsNamespace => "APPLICATIONS_NAMESPACE"
  | .platform => "PLATFORM"
  | .platformVersion => "PLATFORM_VERSION"
  | .propagation => "GC_PROPAGATION_POLICY"
  | .fieldManager => "FIELD_MANAGER"

end RunOption

/-- The settings given so far. -/
structure GivenOptions where
  operatorNamespace : Option String := none
  applicationsNamespace : Option String := none
  platform : Option Platform := none
  platformVersion : Option Version := none
  propagation : Option Propagation := none
  fieldManager : Option String := none
  deriving DecidableEq, Repr, Inhabited

namespace GivenOptions

def has (g : GivenOptions) : RunOption → Bool
  | .operatorNamespace => g.operatorNamespace.isSome
  | .applicationsNamespace => g.applicationsNamespace.isSome
  | .platform => g.platform.isSome
  | .platformVersion => g.platformVersion.isSome
  | .propagation => g.propagation.isSome
  | .fieldManager => g.fieldManager.isSome

/-- Reads the value of a setting that was not given before. -/
def give (g : GivenOptions) (o : RunOption) (value : String) : Except CommandLineError GivenOptions :=
  if g.has o then .error .repeatedArgument
  else match o with
    | .operatorNamespace => .ok { g with operatorNamespace := some value }
    | .applicationsNamespace => .ok { g with applicationsNamespace := some value }
    | .platform => match Platform.ofFlag? value with
      | some p => .ok { g with platform := some p }
      | none => .error .invalidValue
    | .platformVersion => match Version.ofText? value with
      | some v => .ok { g with platformVersion := some v }
      | none => .error .unreadableValue
    | .propagation => match Propagation.ofFlag? value with
      | some p => .ok { g with propagation := some p }
      | none => .error .invalidValue
    | .fieldManager => .ok { g with fieldManager := some value }

/-- Fills in from the environment what the command line leaves open. -/
def fromEnvironment (environment : Dict String) (g : GivenOptions) : Except CommandLineError GivenOptions :=
  RunOption.all.foldlM (fun g o => match environment.get? o.environmentName with
    | some value => if g.has o then .ok g else g.give o value
    | none => .ok g) g

end GivenOptions

/-- The settings of a run, all of them known. -/
structure RunArguments where
  operatorNamespace : String
  applicationsNamespace : String
  release : Release
  propagation : Propagation
  fieldManager : String
  deriving DecidableEq, Repr, Inhabited

/-- The settings with their defaults; the namespace of the operator has none. -/
def RunArguments.ofGiven (g : GivenOptions) : Except CommandLineError RunArguments :=
  match g.operatorNamespace with
  | none => .error .missingArgument
  | some operatorNamespace => .ok {
      operatorNamespace
      applicationsNamespace := g.applicationsNamespace.getD "opendatahub"
      release := ⟨g.platform.getD default, g.platformVersion.getD .zero⟩
      propagation := g.propagation.getD default
      fieldManager := g.fieldManager.getD "opendatahub-operator" }

/-- The settings as a record, with the release they amount to. -/
def RunArguments.toJson (a : RunArguments) : Json :=
  .ofPairs [("operator_namespace", .str a.operatorNamespace), ("applications_namespace", .str a.applicationsNamespace),
    ("platform", .str a.release.platform.text), ("platform_version", .str a.release.version.text),
    ("gc_propagation_policy", .str a.propagation.text), ("field_manager", .str a.fieldManager),
    ("release", .str a.release.text)]

inductive Command where
  /-- Print the definitions of the operator's own types. -/
  | definitions
  | run (arguments : RunArguments)
  deriving DecidableEq, Repr, Inhabited

namespace CommandLine

/-- An argument by its shape. -/
inductive Word where
  /-- Two dashes alone: no options follow. -/
  | escape
  | long (name : String) (value : Option String)
  | short (letter : Char)
  | plain (text : String)
  deriving DecidableEq, Repr

def Word.ofText (s : String) : Word :=
  match s.toList with
  | ['-', '-'] => .escape
  | '-' :: '-' :: cs => match Text.splitOnce? '=' (String.ofList cs) with
    | some (name, value) => .long name (some value)
    | none => .long (String.ofList cs) none
  | '-' :: c :: _ => .short c
  | _ => .plain s

/-- How far the arguments of a command have been read: an option may still wait for its value, or for the
    next argument before its value is read. -/
structure Progress where
  given : GivenOptions := {}
  pending : Option (RunOption × Option String) := none

/-- Reads the value of the pending option, which has to have one. -/
def Progress.settle (p : Progress) : Except CommandLineError GivenOptions :=
  match p.pending with
  | none => .ok p.given
  | some (_, none) => .error .invalidValue
  | some (o, some value) => p.given.give o value

/-- Reads the arguments of a command with these options. -/
def readArguments (options : List RunOption) : List String → Progress → Except CommandLineError GivenOptions
  | [], p => p.settle
  | a :: as, p =>
    match Word.ofText a with
    | .escape => if as.isEmpty then p.settle else .error .unknownArgument
    | .long "help" none | .short 'h' => do
      let _ ← p.settle
      throw .help
    | .long "help" (some _) => .error .unneededValue
    | .short _ => .error .unknownArgument
    | .long name value =>
      match options.find? (·.name == name), value with
      | none, _ => .error .unknownArgument
      | some o, none => do readArguments options as { given := ← p.settle, pending := some (o, none) }
      | some o, some value => do readArguments options as { given := ← (← p.settle).give o value }
    | .plain value =>
      match p.pending with
      | some (o, none) => readArguments options as { p with pending := some (o, some value) }
      | _ => .error .unknownArgument

def commandNames : List String := ["crd", "run", "help"]

/-- Help on commands, which have no commands of their own. -/
def help : List String → CommandLineError
  | [] => .help
  | [name] => if commandNames.contains name then .help else .unknownCommand
  | _ => .unknownCommand

/-- Reads a command line without the name of the program. -/
def readCommand (environment : Dict String) : List String → Except CommandLineError Command
  | [] | ["--"] => .error .missingCommand
  | "crd" :: as => do
    let _ ← readArguments [] as {}
    return .definitions
  | "run" :: as => do
    let given ← readArguments RunOption.all as {}
    return .run (← RunArguments.ofGiven (← given.fromEnvironment environment))
  | "help" :: as => .error (help as)
  | "--" :: a :: _ => .error (if commandNames.contains a then .unknownArgument else .unknownCommand)
  | a :: _ =>
    match Word.ofText a with
    | .long "help" none | .short 'h' => .error .help
    | .long "help" (some _) => .error .unneededValue
    | .long _ _ | .short _ => .error .unknownArgument
    | .escape | .plain _ => .error .unknownCommand

/-- Reads a command line. -/
def read (environment : Dict String) (arguments : List String) : Except CommandLineError Command :=
  readCommand environment (arguments.drop 1)

end CommandLine
end PlatformOperator
