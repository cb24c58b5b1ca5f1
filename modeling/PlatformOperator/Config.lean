import PlatformOperator.Json.Record

/-! Settings: cluster wide ones, and the developer's overrides on a single resource. -/

namespace PlatformOperator
open Json

/-- Where the manifests of a component are found instead. -/
structure ManifestsConfig where
  uri : String
  contextDir : String
  sourcePath : String
  deriving DecidableEq, Repr, Inhabited

namespace ManifestsConfig

def ofJson? (j : Json) : Option ManifestsConfig := do
  let fields ← j.fields? ["uri", "contextDir", "sourcePath"]
  return {
    uri := ← required fields "uri" str?
    contextDir := ← defaulted fields "contextDir" "" str?
    sourcePath := ← defaulted fields "sourcePath" "" str? }

def toJson (c : ManifestsConfig) : Json :=
  .ofPairs [("uri", .str c.uri), ("contextDir", .str c.contextDir), ("sourcePath", .str c.sourcePath)]

end ManifestsConfig

/-- Developer overrides. -/
structure DevFlags where
  manifests : List ManifestsConfig
  deriving DecidableEq, Repr, Inhabited

namespace DevFlags

def ofJson? (j : Json) : Option DevFlags := do
  let fields ← j.fields? ["manifests"]
  return ⟨← defaulted fields "manifests" [] (list? ManifestsConfig.ofJson?)⟩

def toJson (d : DevFlags) : Json := .ofPairs [("manifests", .arr (d.manifests.map ManifestsConfig.toJson))]

end DevFlags

structure ControlPlane where
  name : String
  «namespace» : String
  metricsCollection : String
  deriving DecidableEq, Repr, Inhabited

namespace ControlPlane

def ofJson? (j : Json) : Option ControlPlane := do
  let fields ← j.fields? ["name", "namespace", "metricsCollection"]
  return {
    name := ← required fields "name" str?
    «namespace» := ← required fields "namespace" str?
    metricsCollection := ← defaulted fields "metricsCollection" "" str? }

def toJson (c : ControlPlane) : Json :=
  .ofPairs [("name", .str c.name), ("namespace", .str c.namespace), ("metricsCollection", .str c.metricsCollection)]

end ControlPlane

structure ServiceMesh where
  managementState : String
  controlPlane : ControlPlane
  deriving DecidableEq, Repr, Inhabited

namespace ServiceMesh

def ofJson? (j : Json) : Option ServiceMesh := do
  let fields ← j.fields? ["managementState", "controlPlane"]
  return {
    managementState := ← required fields "managementState" str?
    controlPlane := ← required fields "controlPlane" ControlPlane.ofJson? }

def toJson (m : ServiceMesh) : Json :=
  .ofPairs [("managementState", .str m.managementState), ("controlPlane", m.controlPlane.toJson)]

def isManaged (m : ServiceMesh) : Bool := m.managementState == "Managed"

end ServiceMesh

/-- Cluster wide settings. -/
structure ClusterConfig where
  applicationsNamespace : String
  serviceMesh : Option ServiceMesh
  deriving DecidableEq, Repr, Inhabited

namespace ClusterConfig

def ofJson? (j : Json) : Option ClusterConfig := do
  let fields ← j.fields? ["applicationsNamespace", "serviceMesh"]
  return {
    applicationsNamespace := ← required fields "applicationsNamespace" str?
    serviceMesh := ← optional fields "serviceMesh" ServiceMesh.ofJson? }

def toJson (c : ClusterConfig) : Json :=
  .ofPairs [("applicationsNamespace", .str c.applicationsNamespace),
    ("serviceMesh", (c.serviceMesh.map ServiceMesh.toJson).getD .null)]

end ClusterConfig
end PlatformOperator
