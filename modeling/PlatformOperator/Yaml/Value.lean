import PlatformOperator.Json
import PlatformOperator.Text.Integer

/-! YAML values, and the values that plain scalars stand for. Mappings keep the order they were written
    in, and their keys are values too. -/

namespace PlatformOperator.Yaml

inductive Value where
  | null
  | bool (value : Bool)
  | int (value : Int)
  | decimal (value : Decimal)
  /-- An infinity, or no number at all. -/
  | nonFinite
  | str (text : String)
  | seq (items : List Value)
  | map (entries : List (Value × Value))
  | tagged (tag : String) (value : Value)
  deriving Repr, Inhabited

mutual

/-- Whether two values are the same, the order in mappings included. -/
def Value.same : Value → Value → Bool
  | .null, .null | .nonFinite, .nonFinite => true
  | .bool a, .bool b => a == b
  | .int a, .int b => a == b
  | .decimal a, .decimal b => a == b
  | .str a, .str b => a == b
  | .seq as, .seq bs => sameItems as bs
  | .map as, .map bs => sameEntries as bs
  | .tagged s a, .tagged t b => s == t && a.same b
  | _, _ => false

def sameItems : List Value → List Value → Bool
  | [], [] => true
  | a :: as, b :: bs => a.same b && sameItems as bs
  | _, _ => false

def sameEntries : List (Value × Value) → List (Value × Value) → Bool
  | [], [] => true
  | (k, v) :: as, (l, w) :: bs => k.same l && v.same w && sameEntries as bs
  | _, _ => false

end

instance : BEq Value := ⟨Value.same⟩

/-! ### Numbers -/

/-- The value of a digit in bases up to sixteen. -/
def digitValue? (base : Nat) (c : Char) : Option Nat :=
  let v := if c.isDigit then c.toNat - '0'.toNat
    else if 'a' ≤ c ∧ c ≤ 'f' then c.toNat - 'a'.toNat + 10
    else if 'A' ≤ c ∧ c ≤ 'F' then c.toNat - 'A'.toNat + 10
    else base
  if v < base then some v else none

/-- The number that at least one digit writes. -/
def natural? (base : Nat) (cs : List Char) : Option Nat :=
  if cs = [] then none
  else cs.foldlM (fun n c => (digitValue? base c).map (n * base + ·)) 0

/-- A sign, then a zero and further digits: such a text is no number. -/
def isZeroPadded (cs : List Char) : Bool :=
  let ds := match cs with
    | '-' :: cs | '+' :: cs => cs
    | cs => cs
  1 < ds.length && ds.head? == some '0' && ds.all Char.isDigit

/-- A magnitude in any base, without a further sign. -/
def magnitude? (padded : Bool) : List Char → Option Nat
  | '0' :: 'x' :: cs => natural? 16 cs
  | '0' :: 'o' :: cs => natural? 8 cs
  | '0' :: 'b' :: cs => natural? 2 cs
  | cs => if padded then none else natural? 10 cs

/-- The integer that a plain scalar writes. -/
def integer? (cs : List Char) : Option Int :=
  match cs with
  | '-' :: ds => (magnitude? (isZeroPadded cs) ds).map fun n => -Int.ofNat n
  | '+' :: ds => (magnitude? (isZeroPadded cs) ds).map Int.ofNat
  | ds => (magnitude? (isZeroPadded cs) ds).map Int.ofNat

/-- Digits with at most one point among them, as digits and the number of those behind the point. -/
def pointed? (cs : List Char) : Option (Nat × Nat) :=
  let whole := cs.takeWhile Char.isDigit
  let rest := cs.dropWhile Char.isDigit
  let part := match rest with
    | '.' :: ds => ds
    | ds => ds
  if part.all Char.isDigit ∧ (rest = [] ∨ rest.head? = some '.') ∧ whole ++ part ≠ [] then
    (natural? 10 (whole ++ part)).map (·, part.length)
  else none

/-- An exponent with an optional sign. -/
def exponent? : List Char → Option Int
  | '-' :: cs => (natural? 10 cs).map fun n => -Int.ofNat n
  | '+' :: cs => (natural? 10 cs).map Int.ofNat
  | cs => (natural? 10 cs).map Int.ofNat

/-- Whether the number rounds to one of 64 bits that is finite. -/
def isFinite (digits : Nat) (exponent : Int) : Bool :=
  let size : Int := (toString digits).length + exponent
  digits == 0 || size < 300 ||
    (size < 320 && digits * Nat.pow 10 exponent.toNat < (wordSize 1024 - wordSize 970) * Nat.pow 10 (-exponent).toNat)

/-- The decimal number that a plain scalar writes, if it is finite. -/
def decimal? (cs : List Char) : Option Decimal := do
  let (sign, cs) : Int × List Char := match cs with
    | '-' :: cs => (-1, cs)
    | '+' :: cs => (1, cs)
    | cs => (1, cs)
  let mantissa := cs.takeWhile fun c => c != 'e' && c != 'E'
  let (digits, places) ← pointed? mantissa
  let exponent ← match cs.drop mantissa.length with
    | [] => some 0
    | _ :: es => exponent? es
  let exponent := exponent - places
  if isFinite digits exponent then return ⟨sign * digits, exponent⟩ else none

/-! ### Plain scalars -/

def isNull (s : String) : Bool := s ∈ ["", "~", "null", "Null", "NULL"]

def bool? (s : String) : Option Bool :=
  if s ∈ ["true", "True", "TRUE"] then some true
  else if s ∈ ["false", "False", "FALSE"] then some false
  else none

def nonFiniteNames : List String :=
  [".inf", ".Inf", ".INF", "+.inf", "+.Inf", "+.INF", "-.inf", "-.Inf", "-.INF", ".nan", ".NaN", ".NAN"]

/-- A number; an integer of more than 64 bits is refused as long as it has no more than 128. -/
def number? (s : String) : Option (Option Value) :=
  let cs := s.toList
  let decimal := if isZeroPadded cs then none else (decimal? cs).map fun d => some (.decimal d)
  match integer? cs with
  | some n =>
    if -(wordSize 63 : Int) ≤ n ∧ n < wordSize 64 then some (some (.int n))
    else if -(wordSize 127 : Int) ≤ n ∧ n < wordSize 128 then some none
    else decimal
  | none => if s ∈ nonFiniteNames then some (some .nonFinite) else decimal

/-- The value of a plain scalar. -/
def plain? (s : String) : Option Value :=
  if isNull s then some .null
  else match bool? s, number? s with
    | some b, _ => some (.bool b)
    | none, some v => v
    | none, none => some (.str s)

/-- The value of a scalar by its tag; a local tag stays with the value. -/
def scalar? (tag : Option String) (isPlain : Bool) (s : String) : Option Value :=
  match tag with
  | none => if isPlain then plain? s else some (.str s)
  | some "tag:yaml.org,2002:bool" => (bool? s).map .bool
  | some "tag:yaml.org,2002:int" => do
    match ← number? s with
    | some (.int n) => some (.int n)
    | _ => none
  | some "tag:yaml.org,2002:float" => do
    match ← number? s with
    | some (.int n) => some (.decimal ⟨n, 0⟩)
    | v => v
  | some "tag:yaml.org,2002:null" => if isNull s then some .null else none
  | some t =>
    match t.toList with
    | '!' :: name => (if isPlain then plain? s else some (.str s)).map (.tagged (String.ofList name))
    | _ => some (.str s)

/-! ### JSON -/

mutual

/-- The JSON of a value: keys have to be texts, no tags are left, and what is not finite is null. -/
def Value.toJson? : Value → Option Json
  | .null | .nonFinite => some .null
  | .bool b => some (.bool b)
  | .int n => some (.int n)
  | .decimal d => some (.decimal d)
  | .str s => some (.str s)
  | .seq items => (itemsToJson? items).map .arr
  | .map entries => (membersToJson? entries).map fun ms => .obj (Dict.ofList ms)
  | .tagged _ _ => none

def itemsToJson? : List Value → Option (List Json)
  | [] => some []
  | v :: vs => do return (← v.toJson?) :: (← itemsToJson? vs)

/-- The members in the order of the entries. -/
def membersToJson? : List (Value × Value) → Option (List (String × Json))
  | [] => some []
  | (.str k, v) :: es => do return (k, ← v.toJson?) :: (← membersToJson? es)
  | _ :: _ => none

end

/-- The value without a tag around it. -/
def Value.untagged : Value → Value
  | .tagged _ v => v.untagged
  | v => v

end PlatformOperator.Yaml
