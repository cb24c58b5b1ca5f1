import PlatformOperator.Text.Integer

/-! Semantic versions: three numbers of 64 bits, then optional pre-release and build identifiers. -/

namespace PlatformOperator

structure Version where
  major : Nat
  minor : Nat
  patch : Nat
  preRelease : String
  build : String
  /-- A pre-release ends where the build begins. -/
  preRelease_plain : '+' ∉ preRelease.toList
  deriving DecidableEq, Repr

namespace Version

def text (v : Version) : String :=
  toString v.major ++ "." ++ toString v.minor ++ "." ++ toString v.patch ++
    (if v.preRelease = "" then "" else "-" ++ v.preRelease) ++
    (if v.build = "" then "" else "+" ++ v.build)

/-- Digits that write a number: no superfluous zero in front. -/
def isNumeral (cs : List Char) : Bool := cs.all Char.isDigit && cs != [] && (cs.length == 1 || cs.head? != some '0')

/-- A version number and what follows it. -/
def number? (cs : List Char) : Option (Nat × List Char) :=
  let ds := cs.takeWhile Char.isDigit
  if isNumeral ds then
    match Integer.readDigits (wordSize 64 - 1) .tooLarge 0 ds with
    | .ok n => some (n, cs.dropWhile Char.isDigit)
    | .error _ => none
  else none

def isIdentifierChar (c : Char) : Bool := c.isAlphanum || c == '-'

/-- A dotted identifier: no part is empty; where `strict`, a part of digits is a numeral. -/
def isIdentifier (strict : Bool) (cs : List Char) : Bool :=
  (cs.splitOn '.').all fun part =>
    part != [] && part.all isIdentifierChar && (!strict || !part.all Char.isDigit || isNumeral part)

theorem plus_not_mem_front (cs : List Char) : '+' ∉ (String.ofList (cs.takeWhile (· != '+'))).toList := by
  rw [String.toList_ofList]
  intro h
  have := List.all_eq_true.mp (List.all_takeWhile (p := (· != '+'))) _ h
  simp at this

/-- The identifiers behind the three numbers: the pre-release after a dash, the build after a plus. -/
def suffixes? (cs : List Char) : Option ({ pre : String // '+' ∉ pre.toList } × String) :=
  let build? : List Char → Option String
    | [] => some ""
    | '+' :: bs => if isIdentifier false bs then some (String.ofList bs) else none
    | _ => none
  match cs with
  | '-' :: cs =>
    if isIdentifier true (cs.takeWhile (· != '+')) then
      (build? (cs.dropWhile (· != '+'))).map (⟨String.ofList (cs.takeWhile (· != '+')), plus_not_mem_front cs⟩, ·)
    else none
  | cs => (build? cs).map (⟨"", by simp⟩, ·)

/-- Reads a version. -/
def ofText? (s : String) : Option Version := do
  let (major, cs) ← number? s.toList
  let '.' :: cs := cs | none
  let (minor, cs) ← number? cs
  let '.' :: cs := cs | none
  let (patch, cs) ← number? cs
  let (pre, build) ← suffixes? cs
  return ⟨major, minor, patch, pre, build, pre.property⟩

def zero : Version := ⟨0, 0, 0, "", "", by simp⟩

instance : Inhabited Version := ⟨zero⟩

end Version
end PlatformOperator
