import PlatformOperator.Api
import PlatformOperator.Object.Meta

/-! Objects of any type: type information if there is some, metadata, and all other members as they are. -/

namespace PlatformOperator

structure TypeMeta where
  apiVersion : String
  kind : String
  deriving DecidableEq, Repr, Inhabited

structure Object where
  types : Option TypeMeta := none
  metadata : ObjectMeta := {}
  content : Dict Json := []
  deriving DecidableEq, Repr, Inhabited

namespace Object

/-- The type information among the members, and the members it leaves. Both texts have to be there;
    looking for them takes members out one after another up to the first that is no text. -/
def takeTypes : List (String × Json) → Option String → Option String → Option TypeMeta × List (String × Json)
  | [], some apiVersion, some kind => (some ⟨apiVersion, kind⟩, [])
  | [], _, _ => (none, [])
  | (name, value) :: ms, apiVersion, kind =>
    if name = "apiVersion" ∨ name = "kind" then
      match value with
      | .str s => if name = "kind" then takeTypes ms apiVersion (some s) else takeTypes ms (some s) kind
      | _ => (none, ms)
    else
      let (types, rest) := takeTypes ms apiVersion kind
      (types, (name, value) :: rest)

/-- Reads an object from its members, in the order they were written. -/
def ofMembers? (ms : List (String × Json)) : Option Object := do
  let metadata ← match ms.lookup "metadata" with
    | none => some {}
    | some j => ObjectMeta.ofJson? j
  let (types, rest) := takeTypes (ms.filter (·.1 != "metadata")) none none
  return ⟨types, metadata, Dict.ofList rest⟩

def ofJson? : Json → Option Object
  | .obj ms => ofMembers? ms
  | _ => none

/-- The metadata is always written. -/
def toJson (o : Object) : Json :=
  let types := match o.types with
    | none => []
    | some t => [("apiVersion", Json.str t.apiVersion), ("kind", .str t.kind)]
  .ofPairs (o.content ++ types ++ [("metadata", o.metadata.toJson)])

def name (o : Object) : String := o.metadata.nameAny

/-- Group, version and kind, if the object carries type information. -/
def gvk? (o : Object) : Option Gvk := o.types.map fun t => .ofApiVersion t.apiVersion t.kind

def mapMeta (f : ObjectMeta → ObjectMeta) (o : Object) : Object := { o with metadata := f o.metadata }

/-- The kind, empty without type information. -/
def kind (o : Object) : String := (o.types.map (·.kind)).getD ""

end Object
end PlatformOperator
