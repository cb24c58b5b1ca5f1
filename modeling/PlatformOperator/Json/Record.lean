import PlatformOperator.Json

/-! Reading records: fields by name from an object or by position from a list. -/

namespace PlatformOperator.Json

/-- The fields of a record that declares `names`: the members of an object, or the items of a list no
    longer than the declaration, in its order. -/
def fields? (names : List String) : Json → Option (Dict Json)
  | .obj ms => some ms
  | .arr xs => if xs.length ≤ names.length then some (names.zip xs) else none
  | _ => none

/-- A field that has to be there. -/
def required {α : Type} (fields : Dict Json) (name : String) (read : Json → Option α) : Option α :=
  (fields.get? name).bind read

/-- A field that may be missing or null. -/
def optional {α : Type} (fields : Dict Json) (name : String) (read : Json → Option α) : Option (Option α) :=
  match fields.get? name with
  | none | some .null => some none
  | some j => (read j).map some

/-- A field that reads as its type's default where it is missing or null. -/
def lenient {α : Type} [Inhabited α] (fields : Dict Json) (name : String) (read : Json → Option α) : Option α :=
  (optional fields name read).map (·.getD default)

/-- A field that stands for `fallback` where it is missing. -/
def defaulted {α : Type} (fields : Dict Json) (name : String) (fallback : α) (read : Json → Option α) :
    Option α :=
  match fields.get? name with
  | none => some fallback
  | some j => read j

/-- The name of a constant: its text, or an object whose one member has that name and no content. -/
def constant? : Json → Option String
  | .str s => some s
  | .obj [(s, .null)] => some s
  | _ => none

end PlatformOperator.Json
