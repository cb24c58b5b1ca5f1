/-! Cutting a text at a separator. -/

namespace PlatformOperator.Text

/-- What stands before and after the first `c`, if there is one. -/
def splitOnce? (c : Char) (s : String) : Option (String × String) :=
  if c ∈ s.toList then
    some (String.ofList (s.toList.takeWhile (· != c)), String.ofList ((s.toList.dropWhile (· != c)).drop 1))
  else none

/-- The characters that count as blank at the ends of a text. -/
def isBlank (c : Char) : Bool :=
  (0x9 ≤ c.toNat && c.toNat ≤ 0xD) ||
    c.toNat ∈ [0x20, 0x85, 0xA0, 0x1680, 0x2028, 0x2029, 0x202F, 0x205F, 0x3000] ||
    (0x2000 ≤ c.toNat && c.toNat ≤ 0x200A)

/-- The characters without the blanks at both ends. -/
def trimmed (cs : List Char) : List Char :=
  ((cs.dropWhile isBlank).reverse.dropWhile isBlank).reverse

/-- Whether `part` occurs in `s`. -/
def contains (part s : List Char) : Bool :=
  part.isPrefixOf s || match s with
    | [] => false
    | _ :: s => contains part s

end PlatformOperator.Text
