import PlatformOperator.Dict
import PlatformOperator.Text.Split

/-! Label selectors: terms separated by commas, each asking for a label, for its value, or for another
    value than the one given. -/

namespace PlatformOperator.Selector

/-- A term asks for a value of `key`, for any other value or none, or for `key` alone. -/
inductive Term where
  | equals (key value : String)
  | differs (key value : String)
  | has (key : String)
  deriving DecidableEq, Repr

namespace Term

def trimmedText (cs : List Char) : String := String.ofList (Text.trimmed cs)

/-- What stands before and after the first `!=`. -/
def splitDiffers? : List Char → Option (List Char × List Char)
  | [] => none
  | '!' :: '=' :: cs => some ([], cs)
  | c :: cs => (splitDiffers? cs).map fun p => (c :: p.1, p.2)

/-- Reads a term without blanks at its ends; the equals sign may be doubled. -/
def ofChars (cs : List Char) : Term :=
  match splitDiffers? cs with
  | some (key, value) => .differs (trimmedText key) (trimmedText value)
  | none =>
    if '=' ∈ cs then
      .equals (trimmedText (cs.takeWhile (· != '='))) (trimmedText ((cs.dropWhile (· != '=')).dropWhile (· == '=')))
    else .has (String.ofList cs)

def holds (labels : Dict String) : Term → Bool
  | .equals key value => labels.get? key == some value
  | .differs key value => labels.get? key != some value
  | .has key => labels.contains key

end Term

/-- The terms of a selector; blank ones are left out. -/
def terms (s : String) : List Term :=
  (((s.toList.splitOn ',').map Text.trimmed).filter (· != [])).map Term.ofChars

/-- Whether an object with these labels is selected. -/
def selects (s : String) (labels : Dict String) : Bool := (terms s).all (·.holds labels)

end PlatformOperator.Selector
