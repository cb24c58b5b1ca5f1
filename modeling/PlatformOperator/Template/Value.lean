import PlatformOperator.Json
import PlatformOperator.Template.Tree
import PlatformOperator.Text.Case
import PlatformOperator.Text.Quoted

/-! Values of templates, and what operators and filters make of them. A value that does not exist can be
    passed around and tested, but not printed, searched or used as a condition. -/

namespace PlatformOperator

/-- Why a template cannot be rendered. -/
inductive TemplateError where
  | syntaxError
  | undefinedValue
  | unknownFilter
  | unknownTest
  | missingArgument
  | tooManyArguments
  | invalidOperation
  deriving DecidableEq, Repr, Inhabited

/-- The text of the error, which only tells its kind. -/
def TemplateError.text (e : TemplateError) : String :=
  let kind := match e with
    | .syntaxError => "SyntaxError"
    | .undefinedValue => "UndefinedError"
    | .unknownFilter => "UnknownFilter"
    | .unknownTest => "UnknownTest"
    | .missingArgument => "MissingArgument"
    | .tooManyArguments => "TooManyArguments"
    | .invalidOperation => "InvalidOperation"
  "<template " ++ kind ++ ">"

namespace Template

/-- A value, or none where it does not exist. -/
abbrev Value := Option Json

/-! ### Texts -/

/-- A decimal number in positional notation, with one digit behind the point at least. -/
def decimalText (d : Decimal) : String :=
  let sign := if d.digits < 0 then "-" else ""
  let digits := (toString d.digits.natAbs).toList ++ List.replicate d.exponent.toNat '0'
  let places := (-d.exponent).toNat
  let digits := List.replicate (places + 1 - digits.length) '0' ++ digits
  let fraction := ((digits.drop (digits.length - places)).reverse.dropWhile (· == '0')).reverse
  sign ++ String.ofList (digits.take (digits.length - places)) ++ "." ++
    (if fraction = [] then "0" else String.ofList fraction)

mutual

/-- The text of a value inside of another: strings are quoted. -/
def innerText : Json → String
  | .null => "None"
  | .bool b => if b then "True" else "False"
  | .int n => toString n
  | .decimal d => decimalText d
  | .str s => Text.quoted s
  | .arr items => "[" ++ String.intercalate ", " (innerTexts items) ++ "]"
  | .obj members => "\x7b" ++ String.intercalate ", " (memberTexts members) ++ "\x7d"

def innerTexts : List Json → List String
  | [] => []
  | j :: js => innerText j :: innerTexts js

def memberTexts : List (String × Json) → List String
  | [] => []
  | (k, j) :: ms => (Text.quoted k ++ ": " ++ innerText j) :: memberTexts ms

end

/-- The text of a value; one that does not exist has none. -/
def text : Value → String
  | none => ""
  | some (.str s) => s
  | some j => innerText j

/-! ### Conditions and comparisons -/

def isTrue : Json → Bool
  | .null => false
  | .bool b => b
  | .int n => n != 0
  | .decimal d => d.digits != 0
  | .str s => s != ""
  | .arr items => !items.isEmpty
  | .obj members => !members.isEmpty

/-- A number over a power of ten; truth values count as one and zero. -/
def number? : Json → Option Decimal
  | .bool b => some ⟨if b then 1 else 0, 0⟩
  | .int n => some ⟨n, 0⟩
  | .decimal d => some d
  | _ => none

/-- Two numbers over one power of ten. -/
def aligned (a b : Decimal) : Int × Int :=
  let e := min a.exponent b.exponent
  (a.digits * (Nat.pow 10 (a.exponent - e).toNat : Nat), b.digits * (Nat.pow 10 (b.exponent - e).toNat : Nat))

/-- Numbers are equal by value, all else by form. -/
def areEqual (a b : Value) : Bool :=
  match a.bind number?, b.bind number? with
  | some m, some n => (aligned m n).1 == (aligned m n).2
  | _, _ => a == b

/-- Whether `a` comes before `b`, for numbers and for strings. -/
def less? (a b : Value) : Option Bool :=
  match a.bind number?, b.bind number?, a, b with
  | some m, some n, _, _ => some ((aligned m n).1 < (aligned m n).2)
  | _, _, some (.str s), some (.str t) => some (s < t)
  | _, _, _, _ => none

/-! ### Operators -/

/-- A whole number; truth values count as one and zero. -/
def whole? : Json → Option Int
  | .bool b => some (if b then 1 else 0)
  | .int n => some n
  | _ => none

/-- A whole number within 128 bits. -/
def bounded (n : Int) : Except TemplateError Value :=
  if -(wordSize 127 : Int) ≤ n ∧ n < wordSize 127 then .ok (some (.int n)) else .error .invalidOperation

/-- An operation on whole numbers, and on others where `other` allows it. -/
def arithmetic (onWhole : Int → Int → Int) (a b : Value) : Except TemplateError Value :=
  match a.bind whole?, b.bind whole?, a.bind number?, b.bind number? with
  | some m, some n, _, _ => bounded (onWhole m n)
  | _, _, some m, some n =>
    .ok (some (.decimal ⟨onWhole (aligned m n).1 (aligned m n).2, min m.exponent n.exponent⟩))
  | _, _, _, _ => .error .invalidOperation

/-- An operation on whole numbers whose second operand must not be zero. -/
def division (onWhole : Int → Int → Int) (a b : Value) : Except TemplateError Value :=
  match a.bind whole?, b.bind whole? with
  | some m, some n => if n = 0 then .error .invalidOperation else bounded (onWhole m n)
  | _, _ => .error .invalidOperation

def sum (a b : Value) : Except TemplateError Value :=
  match a, b with
  | some (.str s), some (.str t) => .ok (some (.str (s ++ t)))
  | some (.arr xs), some (.arr ys) => .ok (some (.arr (xs ++ ys)))
  | a, b => arithmetic (· + ·) a b

/-- Whether `a` is found in `b`. -/
def occurs (a b : Value) : Except TemplateError Value :=
  match b with
  | none => .error .undefinedValue
  | some (.str t) =>
    .ok (some (.bool (match a with
      | some (.str s) => Text.contains s.toList t.toList
      | a => Text.contains (text a).toList t.toList)))
  | some (.arr items) => .ok (some (.bool (items.any fun j => areEqual a (some j))))
  | some (.obj members) =>
    .ok (some (.bool (match a with
      | some (.str s) => Dict.contains members s
      | _ => false)))
  | some _ => .error .invalidOperation

def ordered (a b : Value) (f : Bool → Bool) : Except TemplateError Value :=
  match less? a b with
  | some l => .ok (some (.bool (f l)))
  | none => .error .invalidOperation

def Operator.run (op : Operator) (a b : Value) : Except TemplateError Value :=
  match op with
  | .add => sum a b
  | .subtract => arithmetic (· - ·) a b
  | .multiply =>
    match a.bind whole?, b.bind whole? with
    | some m, some n => bounded (m * n)
    | _, _ => .error .invalidOperation
  | .floorDivide => division Int.ediv a b
  | .remainder => division Int.emod a b
  | .concat => .ok (some (.str (text a ++ text b)))
  | .equal => .ok (some (.bool (areEqual a b)))
  | .unequal => .ok (some (.bool (!areEqual a b)))
  | .less => ordered a b id
  | .lessEqual => ordered b a (!·)
  | .greater => ordered b a id
  | .greaterEqual => ordered a b (!·)
  | .isIn => occurs a b

def negated (a : Value) : Except TemplateError Value :=
  match a with
  | some (.int n) => bounded (-n)
  | some (.decimal d) => .ok (some (.decimal { d with digits := -d.digits }))
  | _ => .error .invalidOperation

/-! ### Parts -/

/-- A member of a value, which only objects have. Of what does not exist there are no members. -/
def memberOf (subject : Value) (name : String) : Except TemplateError Value :=
  match subject with
  | none => .error .undefinedValue
  | some j => .ok (j.get? name)

/-- Item `i` of a list, counted from the end where `i` is negative. -/
def item? {α : Type} (items : List α) (i : Int) : Option α :=
  if 0 ≤ i then items[i.toNat]?
  else if i.natAbs ≤ items.length then items[items.length - i.natAbs]?
  else none

/-- A part of a value by its index or key. -/
def partOf (subject index : Value) : Except TemplateError Value :=
  match subject, index with
  | none, _ => .error .undefinedValue
  | some (.obj members), some (.str k) => .ok (Dict.get? members k)
  | some (.arr items), some i => .ok ((whole? i).bind (item? items))
  | some (.str s), some i => .ok (((whole? i).bind (item? s.toList)).map fun c => .str c.toString)
  | some _, _ => .ok none

/-- The items that a loop over a value goes through: those of a list, the keys of an object, the
    characters of a string, none of null. -/
def itemsOf : Value → Except TemplateError (List Json)
  | none => .error .undefinedValue
  | some .null => .ok []
  | some (.arr items) => .ok items
  | some (.obj members) => .ok (members.map fun p => .str p.1)
  | some (.str s) => .ok (s.toList.map fun c => .str c.toString)
  | some _ => .error .invalidOperation

/-! ### Filters and tests -/

/-- The text of an argument that has to be one. -/
def textArgument (v : Option Value) : Except TemplateError String :=
  match v with
  | none => .error .missingArgument
  | some none => .error .undefinedValue
  | some v => .ok (text v)

/-- What of at most `n` arguments there are too many. -/
def noMoreThan (n : Nat) (arguments : List Value) : Except TemplateError Unit :=
  if arguments.length ≤ n then .ok () else .error .tooManyArguments

/-- `s` with every occurrence of `part` replaced, from the left. -/
def replaceFrom (part new : List Char) : Nat → List Char → List Char
  | _, [] => []
  | skip + 1, _ :: cs => replaceFrom part new skip cs
  | 0, c :: cs =>
    if part.isPrefixOf (c :: cs) then new ++ replaceFrom part new (part.length - 1) cs
    else c :: replaceFrom part new 0 cs

/-- `s` with every occurrence of `part` replaced. The empty text occurs around every character. -/
def replace (part new s : String) : String :=
  if part = "" then String.ofList (new.toList ++ s.toList.flatMap fun c => c :: new.toList)
  else String.ofList (replaceFrom part.toList new.toList 0 s.toList)

/-- The value that a filter with arguments makes of `v`. -/
def applyFilter (name : String) (v : Value) (arguments : List Value) : Except TemplateError Value := do
  match name with
  | "replace_char" =>
    let s ← textArgument (some v)
    let part ← textArgument arguments[0]?
    let new ← textArgument arguments[1]?
    noMoreThan 2 arguments
    return some (.str (replace part new s))
  | "upper" =>
    let s ← textArgument (some v)
    noMoreThan 0 arguments
    return some (.str (Text.upper s))
  | "lower" =>
    let s ← textArgument (some v)
    noMoreThan 0 arguments
    return some (.str (Text.lower s))
  | "length" | "count" =>
    noMoreThan 0 arguments
    match v with
    | some (.str s) => return some (.int s.length)
    | some (.arr items) => return some (.int items.length)
    | some (.obj members) => return some (.int members.length)
    | _ => throw .invalidOperation
  | "default" | "d" =>
    let fallback : Value := match arguments[0]? with
      | none | some none | some (some Json.null) => some (.str "")
      | some v => v
    let alsoForFalse ← match arguments[1]? with
      | none | some none | some (some Json.null) => pure false
      | some (some (Json.bool b)) => pure b
      | some _ => throw .invalidOperation
    noMoreThan 2 arguments
    match v with
    | none => return fallback
    | some j => return if alsoForFalse && !isTrue j then fallback else v
  | _ => throw .unknownFilter

/-- Whether a test holds of `v`. -/
def holds (name : String) (v : Value) : Except TemplateError Bool :=
  match name with
  | "defined" => .ok v.isSome
  | "undefined" => .ok v.isNone
  | "none" => .ok (v == some .null)
  | _ => .error .unknownTest

end Template
end PlatformOperator
