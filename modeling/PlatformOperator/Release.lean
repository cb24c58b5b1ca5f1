import PlatformOperator.Json.Record
import PlatformOperator.Version

/-! The identity of the operator release: a platform and a version. -/

namespace PlatformOperator

/-- The platform the operator is built for. -/
inductive Platform where
  | community
  | selfManaged
  | cloudService
  deriving DecidableEq, Repr

namespace Platform

def text : Platform → String
  | .community => "Open Data Hub"
  | .selfManaged => "OpenShift AI Self-Managed"
  | .cloudService => "OpenShift AI Cloud Service"

/-- The name on a command line. -/
def flag : Platform → String
  | .community => "OpenDataHub"
  | .selfManaged => "SelfManagedRhoai"
  | .cloudService => "ManagedRhoai"

def all : List Platform := [.community, .selfManaged, .cloudService]

def ofText? (s : String) : Option Platform := all.find? (·.text == s)

def ofFlag? (s : String) : Option Platform := all.find? (·.flag == s)

end Platform

instance : Inhabited Platform := ⟨.community⟩

/-- The release stamped onto every object the operator creates. -/
structure Release where
  platform : Platform
  version : Version
  deriving DecidableEq, Repr

instance : Inhabited Release := ⟨.community, .zero⟩

namespace Release

def text (r : Release) : String := r.platform.text ++ " " ++ r.version.text

def ofJson? (j : Json) : Option Release := do
  let fields ← j.fields? ["name", "version"]
  let platform ← Json.required fields "name" fun j => j.constant?.bind Platform.ofText?
  let version ← Json.required fields "version" fun j => j.str?.bind Version.ofText?
  return ⟨platform, version⟩

def toJson (r : Release) : Json := .ofPairs [("name", .str r.platform.text), ("version", .str r.version.text)]

end Release
end PlatformOperator
