import PlatformOperator.Cause
import PlatformOperator.Manifest.Document
import PlatformOperator.Template

/-! Manifests: named texts that describe objects. A name with `.tmpl` in it marks a template, one with
    `.patch` marks objects to be merged into existing ones. -/

namespace PlatformOperator

/-- How a file cannot be read. -/
inductive FileError where
  | notFound
  | notADirectory
  | isADirectory
  | invalidData
  deriving DecidableEq, Repr, Inhabited

/-- The text of the error, which only tells its kind. -/
def FileError.text (e : FileError) : String :=
  let kind := match e with
    | .notFound => "NotFound"
    | .notADirectory => "NotADirectory"
    | .isADirectory => "IsADirectory"
    | .invalidData => "InvalidData"
  "<io " ++ kind ++ ">"

/-- How a manifest cannot be read or turned into objects. -/
inductive ManifestError where
  | readManifest (path : String) (error : FileError)
  | renderTemplate (manifest : String) (error : TemplateError)
  | parseYaml (manifest : String)
  | parseObject (manifest : String) (index : Nat)
  deriving DecidableEq, Repr, Inhabited

namespace ManifestError
open Text (quoted)

def cause : ManifestError → Cause
  | .readManifest p e => .context ("failed to read manifest " ++ quoted p) (.plain e.text)
  | .renderTemplate m e => .context ("failed to render template " ++ quoted m) (.plain e.text)
  | .parseYaml m => .context ("manifest " ++ quoted m ++ " is not valid YAML") (.plain "<yaml>")
  | .parseObject m i =>
    .context ("document " ++ toString i ++ " of manifest " ++ quoted m ++ " is not a Kubernetes object")
      (.plain "<yaml>")

def kindName : ManifestError → String
  | .readManifest .. => "ReadManifest"
  | .renderTemplate .. => "RenderTemplate"
  | .parseYaml _ => "ParseYaml"
  | .parseObject .. => "ParseObject"

instance : Failure ManifestError := ⟨kindName, cause⟩

end ManifestError

structure Manifest where
  name : String
  content : String
  deriving DecidableEq, Repr, Inhabited

namespace Manifest

def isTemplate (m : Manifest) : Bool := Text.contains ".tmpl".toList m.name.toList

def isPatch (m : Manifest) : Bool := Text.contains ".patch".toList m.name.toList

/-- The objects of documents, the first of which has the given index. Empty documents count but hold no
    object; the first document in error ends the reading. -/
def objectsFrom (m : Manifest) : Nat → List (Option Yaml.Value) → Except ManifestError (List Object)
  | _, [] => .ok []
  | _, none :: _ => .error (.parseYaml m.name)
  | i, some .null :: vs => objectsFrom m (i + 1) vs
  | i, some v :: vs =>
    match Object.ofYaml? v with
    | none => .error (.parseObject m.name i)
    | some o => (objectsFrom m (i + 1) vs).map (o :: ·)

/-- The text that describes the objects: a template is rendered with the data. -/
def rendered (m : Manifest) (data : Dict Json) : Except ManifestError String :=
  if m.isTemplate then (Template.render m.content data).mapError (.renderTemplate m.name) else .ok m.content

/-- The objects that the manifest describes, given the data for templates. -/
def process (m : Manifest) (data : Dict Json) : Except ManifestError (List Object) := do
  objectsFrom m 0 (Yaml.documents (← m.rendered data))

end Manifest
end PlatformOperator
