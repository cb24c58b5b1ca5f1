import PlatformOperator.Word

/-! Signed decimal integers: an optional single sign and ASCII digits, within 64 bits. -/

namespace PlatformOperator.Integer

/-- Why a text is no integer. -/
inductive Flaw where
  | empty
  | invalidDigit
  | tooLarge
  | tooSmall
  deriving DecidableEq, Repr

def Flaw.text : Flaw → String
  | .empty => "cannot parse integer from empty string"
  | .invalidDigit => "invalid digit found in string"
  | .tooLarge => "number too large to fit in target type"
  | .tooSmall => "number too small to fit in target type"

/-- The value of an ASCII digit. -/
def digit? (c : Char) : Option Nat := if c.isDigit then some (c.toNat - '0'.toNat) else none

/-- Reads digits onto `acc` until one is invalid or the magnitude passes `limit`. -/
def readDigits (limit : Nat) (excess : Flaw) (acc : Nat) : List Char → Except Flaw Nat
  | [] => .ok acc
  | c :: cs =>
    match digit? c with
    | none => .error .invalidDigit
    | some d => if acc * 10 + d ≤ limit then readDigits limit excess (acc * 10 + d) cs else .error excess

/-- A magnitude of at least one digit. -/
def readMagnitude (limit : Nat) (excess : Flaw) : List Char → Except Flaw Nat
  | [] => .error .invalidDigit
  | cs => readDigits limit excess 0 cs

/-- The 64-bit signed integer that `s` writes. -/
def readSigned (s : String) : Except Flaw Int :=
  match s.toList with
  | [] => .error .empty
  | '+' :: cs => (readMagnitude (wordSize 63 - 1) .tooLarge cs).map Int.ofNat
  | '-' :: cs => (readMagnitude (wordSize 63) .tooSmall cs).map fun n => -Int.ofNat n
  | cs => (readMagnitude (wordSize 63 - 1) .tooLarge cs).map Int.ofNat

/-- The decimal text of an integer. -/
def text (n : Int) : String := toString n

end PlatformOperator.Integer
