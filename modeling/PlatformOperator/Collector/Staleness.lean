import PlatformOperator.Cause
import PlatformOperator.Object.Marks
import PlatformOperator.Release

/-! Stale objects: those rendered for another release, another instance or another generation of it than
    the current one. An object without a full stamp is never stale. -/

namespace PlatformOperator

/-- The stamp of the current render. -/
structure CurrentState where
  release : Release
  generation : Int
  uid : Option String
  deriving DecidableEq, Repr

/-- The generation in annotation `key` of an object is no integer. -/
structure UnreadableGeneration where
  key : String
  kind : String
  name : String
  flaw : Integer.Flaw
  deriving DecidableEq, Repr

def UnreadableGeneration.text (e : UnreadableGeneration) : String :=
  "annotation " ++ Text.quoted e.key ++ " of " ++ e.kind ++ " " ++ Text.quoted e.name ++
    " is not a valid generation"

instance : Failure UnreadableGeneration where
  kindName _ := "ParseGeneration"
  cause e := .context e.text (.plain e.flaw.text)

namespace CurrentState

/-- The key and the text of an object's generation; older releases wrote another key. -/
def generationMark? (m : ObjectMeta) : Option (String × String) :=
  (m.annotation? Marks.instanceGeneration).map (Marks.instanceGeneration, ·) <|>
    (m.annotation? Marks.componentGeneration).map (Marks.componentGeneration, ·)

/-- Whether `o` was rendered for another release, instance or generation. The instance counts only if
    the object names it. -/
def isStale (s : CurrentState) (o : Object) : Except UnreadableGeneration Bool :=
  match o.metadata.annotation? Marks.platformVersion, o.metadata.annotation? Marks.platformType,
      generationMark? o.metadata with
  | some version, some platform, some (key, generation) =>
    if version ≠ s.release.version.text ∨ platform ≠ s.release.platform.text then .ok true
    else if (o.metadata.annotation? Marks.instanceUid).any (fun uid => s.uid != some uid) then .ok true
    else match Integer.readSigned generation with
      | .ok n => .ok (n != s.generation)
      | .error flaw => .error ⟨key, o.kind, o.name, flaw⟩
  | _, _, _ => .ok false

end CurrentState
end PlatformOperator
