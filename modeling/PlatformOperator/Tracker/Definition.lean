import PlatformOperator.Json.Text
import PlatformOperator.Text.Case
import PlatformOperator.Tracker

/-! The definition that makes a cluster serve trackers, with the schema of their contents. -/

namespace PlatformOperator.Tracker

namespace Schema

/-- The schema of an object; of its fields the named ones are required. -/
def object (required : List String) (properties : List (String × Json)) : List (String × Json) :=
  [("type", .str "object"), ("properties", .ofPairs properties), ("required", .arr (required.map .str))]

def text : List (String × Json) := [("type", .str "string")]

def integer : List (String × Json) := [("type", .str "integer"), ("format", .str "int64")]

def time : List (String × Json) := [("type", .str "string"), ("format", .str "date-time")]

/-- One of some texts. -/
def choice (texts : List String) : List (String × Json) :=
  [("type", .str "string"), ("enum", .arr (texts.map .str))]

def nullable (schema : List (String × Json)) : List (String × Json) := ("nullable", .bool true) :: schema

def described (description : String) (schema : List (String × Json)) : Json :=
  .ofPairs (("description", .str description) :: schema)

def condition : Json :=
  .ofPairs (object ["type", "status"] [
    ("type", described "Type of the condition, e.g. \x60Ready\x60." text),
    ("status", described "Status of the condition, one of True, False, Unknown."
      (choice (ConditionStatus.all.map ConditionStatus.text))),
    ("observedGeneration", described "The \x60.metadata.generation\x60 the condition was set based upon."
      (nullable integer)),
    ("lastTransitionTime", described "Last time the condition transitioned from one status to another."
      (nullable time)),
    ("lastHeartbeatTime", described "Last time the condition was checked." (nullable time)),
    ("reason", described "The reason for the condition's last transition, in \x60PascalCase\x60." (nullable text)),
    ("message", described "A human readable message indicating details about the transition." (nullable text)),
    ("severity", described "How much a non-True status of this condition affects the happy condition."
      (choice (Severity.all.map Severity.text)))])

def source : Json :=
  described "What defined a feature." (object ["type", "name"]
    [("type", .ofPairs (choice (SourceType.all.map SourceType.text))), ("name", .ofPairs text)])

def spec : Json :=
  .ofPairs (object ["source", "appNamespace"] [("source", source), ("appNamespace", .ofPairs text)])

def status : Json :=
  .ofPairs (nullable [("type", .str "object"), ("properties", .ofPairs [
    ("phase", .ofPairs (nullable text)),
    ("conditions", .ofPairs [("type", .str "array"), ("items", condition), ("default", .arr [])])])])

def tracker : Json :=
  described "Auto-generated derived type for FeatureTrackerSpec via \x60CustomResource\x60"
    (("title", .str resource.kind) :: object ["spec"] [("spec", spec), ("status", status)])

end Schema

/-- The definition of trackers. -/
def definition : Json :=
  .ofPairs [("apiVersion", .str "apiextensions.k8s.io/v1"), ("kind", .str "CustomResourceDefinition"),
    ("metadata", .ofPairs [("name", .str (resource.plural ++ "." ++ resource.group))]),
    ("spec", .ofPairs [("group", .str resource.group), ("scope", .str Scope.cluster.text),
      ("names", .ofPairs [("kind", .str resource.kind), ("plural", .str resource.plural),
        ("singular", .str (Text.lower resource.kind)), ("categories", .arr []), ("shortNames", .arr [])]),
      ("versions", .arr [.ofPairs [("name", .str resource.version), ("served", .bool true), ("storage", .bool true),
        ("schema", .ofPairs [("openAPIV3Schema", Schema.tracker)]), ("additionalPrinterColumns", .arr []),
        ("subresources", .ofPairs [("status", .obj [])])]])])]

/-- The definition as a document of a YAML stream, of which JSON is a part. -/
def definitionText : String := "---\n" ++ definition.text ++ "\n"

end PlatformOperator.Tracker
