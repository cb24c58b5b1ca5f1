import PlatformOperator.Dict
import PlatformOperator.Word

/-! JSON values. Integers are exact and other numbers are decimals; the members of an object are a
    dictionary, so equal objects are equal values. -/

namespace PlatformOperator

/-- The number `digits · 10 ^ exponent`, written with a point or an exponent in JSON. -/
structure Decimal where
  digits : Int
  exponent : Int
  deriving DecidableEq, Repr, Inhabited

inductive Json where
  | null
  | bool (value : Bool)
  | int (value : Int)
  | decimal (value : Decimal)
  | str (text : String)
  | arr (items : List Json)
  | obj (members : List (String × Json))
  deriving Repr, Inhabited

namespace Json

mutual

/-- Equality of values is decided member by member. -/
def decEq : (a b : Json) → Decidable (a = b)
  | .null, .null => isTrue rfl
  | .bool a, .bool b => decidable_of_iff (a = b) (by simp)
  | .int a, .int b => decidable_of_iff (a = b) (by simp)
  | .decimal a, .decimal b => decidable_of_iff (a = b) (by simp)
  | .str a, .str b => decidable_of_iff (a = b) (by simp)
  | .arr a, .arr b => @decidable_of_iff _ (a = b) (by simp) (decEqItems a b)
  | .obj a, .obj b => @decidable_of_iff _ (a = b) (by simp) (decEqMembers a b)
  | .null, .bool _ | .null, .int _ | .null, .decimal _ | .null, .str _ | .null, .arr _ | .null, .obj _
  | .bool _, .null | .bool _, .int _ | .bool _, .decimal _ | .bool _, .str _ | .bool _, .arr _
  | .bool _, .obj _ | .int _, .null | .int _, .bool _ | .int _, .decimal _ | .int _, .str _
  | .int _, .arr _ | .int _, .obj _ | .decimal _, .null | .decimal _, .bool _ | .decimal _, .int _
  | .decimal _, .str _ | .decimal _, .arr _ | .decimal _, .obj _ | .str _, .null | .str _, .bool _
  | .str _, .int _ | .str _, .decimal _ | .str _, .arr _ | .str _, .obj _ | .arr _, .null
  | .arr _, .bool _ | .arr _, .int _ | .arr _, .decimal _ | .arr _, .str _ | .arr _, .obj _
  | .obj _, .null | .obj _, .bool _ | .obj _, .int _ | .obj _, .decimal _ | .obj _, .str _
  | .obj _, .arr _ => isFalse (by simp)

def decEqItems : (a b : List Json) → Decidable (a = b)
  | [], [] => isTrue rfl
  | [], _ :: _ | _ :: _, [] => isFalse (by simp)
  | a :: as, b :: bs =>
    match decEq a b, decEqItems as bs with
    | isTrue h, isTrue h' => isTrue (by simp [h, h'])
    | isFalse h, _ => isFalse (by simp [h])
    | _, isFalse h => isFalse (by simp [h])

def decEqMembers : (a b : List (String × Json)) → Decidable (a = b)
  | [], [] => isTrue rfl
  | [], _ :: _ | _ :: _, [] => isFalse (by simp)
  | (k, a) :: as, (l, b) :: bs =>
    match decEq a b, decEqMembers as bs with
    | isTrue h, isTrue h' => decidable_of_iff (k = l) (by simp [h, h'])
    | isFalse h, _ => isFalse (by simp [h])
    | _, isFalse h => isFalse (by simp [h])

end

instance : DecidableEq Json := decEq

/-- The object with these members; of two with one name the later counts. -/
def ofPairs (pairs : List (String × Json)) : Json := .obj (Dict.ofList pairs)

/-- The object with those of the members that are present. -/
def ofPresent (pairs : List (String × Option Json)) : Json :=
  ofPairs (pairs.filterMap fun p => p.2.map (p.1, ·))

/-- The members of an object; none of anything else. -/
def members : Json → Dict Json
  | .obj ms => ms
  | _ => []

/-- Member `k` of an object. -/
def get? (j : Json) (k : String) : Option Json := j.members.get? k

/-- Member `k` of an object, null where there is none. -/
def member (j : Json) (k : String) : Json := (j.get? k).getD .null

def items : Json → List Json
  | .arr xs => xs
  | _ => []

def str? : Json → Option String
  | .str s => some s
  | _ => none

def bool? : Json → Option Bool
  | .bool b => some b
  | _ => none

/-- An integer within `bits` signed bits. -/
def signed? (bits : Nat) : Json → Option Int
  | .int n => if -(wordSize (bits - 1) : Int) ≤ n ∧ n < wordSize (bits - 1) then some n else none
  | _ => none

/-- A list whose items all read as `read` says. -/
def list? {α : Type} (read : Json → Option α) : Json → Option (List α)
  | .arr xs => xs.mapM read
  | _ => none

/-- An object whose members all read as `read` says. -/
def dict? {α : Type} (read : Json → Option α) : Json → Option (Dict α)
  | .obj ms => ms.mapM fun p => (read p.2).map (p.1, ·)
  | _ => none

def ofDict {α : Type} (write : α → Json) (d : Dict α) : Json := .obj (d.map fun p => (p.1, write p.2))

end Json
end PlatformOperator
