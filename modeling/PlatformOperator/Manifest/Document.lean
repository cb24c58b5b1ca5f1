import PlatformOperator.Object
import PlatformOperator.Yaml.Document

/-! YAML documents that describe objects. -/

namespace PlatformOperator
open Yaml (Value)

namespace Yaml

mutual

/-- The value without any tag in it. -/
def Value.bare : Value → Value
  | .tagged _ v => v.bare
  | .seq items => .seq (bareItems items)
  | .map entries => .map (bareEntries entries)
  | v => v

def bareItems : List Value → List Value
  | [] => []
  | v :: vs => v.bare :: bareItems vs

def bareEntries : List (Value × Value) → List (Value × Value)
  | [] => []
  | (k, v) :: es => (k, v.bare) :: bareEntries es

end

end Yaml

/-- A record of which nothing is written reads as one without members. -/
def Json.orEmptyRecord : Json → Json
  | .null => .obj []
  | j => j

/-- The metadata in a document: unknown members may hold anything, tags do not count, and null stands for
    an empty record. -/
def ObjectMeta.ofYaml? (v : Value) : Option ObjectMeta := do
  let entries ← match v.bare with
    | .null => some []
    | .map entries => some entries
    | _ => none
  let keys ← entries.mapM fun e => match e.1 with
    | .str k => some k
    | _ => none
  let known := (keys.zip (entries.map (·.2))).filter fun p => memberNames.contains p.1
  let members ← known.mapM fun (k, v) => do
    let j ← v.toJson?
    match j with
    | .arr items => return (k, if k ∈ ["managedFields", "ownerReferences"] then .arr (items.map (·.orEmptyRecord)) else j)
    | j => return (k, j)
  ofJson? (.ofPairs members)

/-- The object that a document describes. Outside of the metadata no tag is allowed. -/
def Object.ofYaml? (v : Value) : Option Object := do
  let .map entries := v.untagged | none
  let (metadata, others) := entries.partition fun e => e.1 == .str "metadata"
  let metadata ← match metadata with
    | [] => some {}
    | e :: _ => ObjectMeta.ofYaml? e.2
  let o ← ofMembers? (← Yaml.membersToJson? others)
  return { o with metadata }

end PlatformOperator
