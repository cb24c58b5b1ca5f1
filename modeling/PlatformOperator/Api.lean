import PlatformOperator.Text.Quoted
import PlatformOperator.Text.Split

/-! The vocabulary of a cluster's API: types of objects, their scope, ways to delete, and the failures a
    call can end in. -/

namespace PlatformOperator

/-- A group, a version and a kind; the core group has the empty name. -/
structure Gvk where
  group : String
  version : String
  kind : String
  deriving DecidableEq, Repr, Inhabited

namespace Gvk

/-- Group and version of an API version; a version alone belongs to the core group. -/
def splitApiVersion (apiVersion : String) : String × String :=
  (Text.splitOnce? '/' apiVersion).getD ("", apiVersion)

def ofApiVersion (apiVersion kind : String) : Gvk :=
  let (group, version) := splitApiVersion apiVersion
  ⟨group, version, kind⟩

def apiVersion (g : Gvk) : String := if g.group = "" then g.version else g.group ++ "/" ++ g.version

/-- `group/version, Kind=kind`. -/
def text (g : Gvk) : String := g.group ++ "/" ++ g.version ++ ", Kind=" ++ g.kind

end Gvk

/-- A type of objects as the API addresses it. -/
structure ApiResource where
  group : String
  version : String
  kind : String
  plural : String
  deriving DecidableEq, Repr, Inhabited

namespace ApiResource

def gvk (r : ApiResource) : Gvk := ⟨r.group, r.version, r.kind⟩

def apiVersion (r : ApiResource) : String := r.gvk.apiVersion

def ofGvk (g : Gvk) (plural : String) : ApiResource := ⟨g.group, g.version, g.kind, plural⟩

end ApiResource

/-- API version, kind and plural. -/
def ApiResource.text (r : ApiResource) : String := r.apiVersion ++ " " ++ r.kind ++ " " ++ r.plural

/-- Whether objects of a type live in a namespace or at cluster level. -/
inductive Scope where
  | namespaced
  | cluster
  deriving DecidableEq, Repr, Inhabited

def Scope.text : Scope → String
  | .namespaced => "Namespaced"
  | .cluster => "Cluster"

/-- How the dependents of a deleted object are handled. -/
inductive Propagation where
  /-- Dependents are deleted before the owner disappears. -/
  | foreground
  /-- The owner disappears at once, dependents are deleted afterwards. -/
  | background
  /-- Dependents are left behind. -/
  | orphan
  deriving DecidableEq, Repr

instance : Inhabited Propagation := ⟨.foreground⟩

namespace Propagation

def text : Propagation → String
  | .foreground => "Foreground"
  | .background => "Background"
  | .orphan => "Orphan"

/-- The name on a command line. -/
def flag : Propagation → String
  | .foreground => "foreground"
  | .background => "background"
  | .orphan => "orphan"

def all : List Propagation := [.foreground, .background, .orphan]

def ofText? (s : String) : Option Propagation := all.find? (·.text == s)

def ofFlag? (s : String) : Option Propagation := all.find? (·.flag == s)

end Propagation

/-- How a call to the API fails. Where the cause lies below the API, `detail` is its text. -/
inductive ApiError where
  | notFound (kind name : String)
  | forbidden (kind message : String)
  | methodNotAllowed (kind : String)
  | alreadyExists (kind name : String)
  | conflict (kind name message : String)
  | request (verb kind name detail : String)
  | discovery (detail : String)
  | resolveResource (gvk detail : String)
  | createRulesReview («namespace» detail : String)
  | rulesEvaluation («namespace» message : String)
  | missingName (kind : String)
  deriving DecidableEq, Repr, Inhabited

namespace ApiError
open Text (quoted)

def text : ApiError → String
  | .notFound kind name => kind ++ " " ++ quoted name ++ " not found"
  | .forbidden kind message => "access to " ++ kind ++ " is forbidden: " ++ message
  | .methodNotAllowed kind => "method not allowed on " ++ kind
  | .alreadyExists kind name => kind ++ " " ++ quoted name ++ " already exists"
  | .conflict kind name message => "conflict while writing " ++ kind ++ " " ++ quoted name ++ ": " ++ message
  | .request verb kind name _ => "failed to " ++ verb ++ " " ++ kind ++ " " ++ quoted name
  | .discovery _ => "failed to retrieve the API resources supported by the server"
  | .resolveResource gvk _ => "failed to resolve the API resource of " ++ gvk
  | .createRulesReview ns _ => "failed to create a SelfSubjectRulesReview in namespace " ++ quoted ns
  | .rulesEvaluation ns message => "rules review in namespace " ++ quoted ns ++ " failed: " ++ message
  | .missingName kind => "object of kind " ++ kind ++ " has no name"

/-- The name of the kind of failure. -/
def kindName : ApiError → String
  | .notFound .. => "NotFound"
  | .forbidden .. => "Forbidden"
  | .methodNotAllowed _ => "MethodNotAllowed"
  | .alreadyExists .. => "AlreadyExists"
  | .conflict .. => "Conflict"
  | .request .. => "Request"
  | .discovery _ => "Discovery"
  | .resolveResource .. => "ResolveResource"
  | .createRulesReview .. => "CreateRulesReview"
  | .rulesEvaluation .. => "RulesEvaluation"
  | .missingName _ => "MissingName"

/-- The text of the cause below the API. -/
def detail? : ApiError → Option String
  | .request _ _ _ d | .discovery d | .resolveResource _ d | .createRulesReview _ d => some d
  | _ => none

def isNotFound : ApiError → Bool
  | .notFound .. => true
  | _ => false

def isForbidden : ApiError → Bool
  | .forbidden .. => true
  | _ => false

def isMethodNotAllowed : ApiError → Bool
  | .methodNotAllowed .. => true
  | _ => false

def isConflict : ApiError → Bool
  | .conflict .. => true
  | _ => false

def isAlreadyExists : ApiError → Bool
  | .alreadyExists .. => true
  | _ => false

end ApiError
end PlatformOperator
