import PlatformOperator.Json

/-! JSON as text: one line without spaces when it is written, any layout when it is read. -/

namespace PlatformOperator.Json

/-! ### Writing -/

def hexDigit (n : Nat) : Char := "0123456789abcdef".toList.getD n '0'

/-- Quotes, backslashes and control characters are escaped, all else is written as it is. -/
def escapeChar (c : Char) : List Char :=
  if c = '"' then ['\\', '"']
  else if c = '\\' then ['\\', '\\']
  else if c.toNat < 0x20 then ['\\', 'u', '0', '0', hexDigit (c.toNat / 16), hexDigit (c.toNat % 16)]
  else [c]

def quotedText (s : String) : String := "\"" ++ String.ofList (s.toList.flatMap escapeChar) ++ "\""

mutual

def text : Json → String
  | .null => "null"
  | .bool b => if b then "true" else "false"
  | .int n => toString n
  | .decimal d => toString d.digits ++ "e" ++ toString d.exponent
  | .str s => quotedText s
  | .arr xs => "[" ++ String.intercalate "," (texts xs) ++ "]"
  | .obj ms => "\x7b" ++ String.intercalate "," (memberTexts ms) ++ "\x7d"

def texts : List Json → List String
  | [] => []
  | x :: xs => x.text :: texts xs

def memberTexts : List (String × Json) → List String
  | [] => []
  | (name, x) :: ms => (quotedText name ++ ":" ++ x.text) :: memberTexts ms

end

/-! ### Reading -/

/-- What is read from the front of a text, and the rest. -/
abbrev Reading (α : Type) := List Char → Option (α × List Char)

def isBlank (c : Char) : Bool := c = ' ' ∨ c = '\t' ∨ c = '\n' ∨ c = '\r'

def skipBlanks (cs : List Char) : List Char := cs.dropWhile isBlank

def hexValue? (c : Char) : Option Nat :=
  if c.isDigit then some (c.toNat - '0'.toNat)
  else if 'a' ≤ c ∧ c ≤ 'f' then some (c.toNat - 'a'.toNat + 10)
  else if 'A' ≤ c ∧ c ≤ 'F' then some (c.toNat - 'A'.toNat + 10)
  else none

/-- Four hexadecimal digits. -/
def hex4? : Reading Nat
  | a :: b :: c :: d :: cs => do
    let digits ← [a, b, c, d].mapM hexValue?
    return (digits.foldl (fun n d => 16 * n + d) 0, cs)
  | _ => none

/-- The character of a `\u` escape: one unit, or a high and a low surrogate one after the other. -/
def unicodeEscape? (cs : List Char) : Option (Char × List Char) := do
  let (n, cs) ← hex4? cs
  if n < 0xD800 ∨ 0xE000 ≤ n then return (Char.ofNat n, cs)
  else if 0xDC00 ≤ n then none
  else match cs with
    | '\\' :: 'u' :: cs =>
      let (low, cs) ← hex4? cs
      if 0xDC00 ≤ low ∧ low < 0xE000 then
        return (Char.ofNat (0x10000 + (n - 0xD800) * 0x400 + (low - 0xDC00)), cs)
      else none
    | _ => none

/-- What an escape by a single letter stands for. -/
def letterEscapes : List (Char × Char) :=
  [('"', '"'), ('\\', '\\'), ('/', '/'), ('b', '\x08'), ('f', '\x0c'), ('n', '\n'), ('r', '\r'), ('t', '\t')]

/-- The characters up to the closing quote, of which there are fewer than `fuel`. -/
def stringTail? : Nat → Reading (List Char)
  | 0, _ => none
  | _ + 1, [] => none
  | _ + 1, '"' :: cs => some ([], cs)
  | fuel + 1, '\\' :: 'u' :: cs => do
    let (c, cs) ← unicodeEscape? cs
    let (s, cs) ← stringTail? fuel cs
    return (c :: s, cs)
  | fuel + 1, '\\' :: e :: cs => do
    let c ← letterEscapes.lookup e
    let (s, cs) ← stringTail? fuel cs
    return (c :: s, cs)
  | fuel + 1, c :: cs => do
    if c.toNat < 0x20 ∨ c = '\\' then none
    else
      let (s, cs) ← stringTail? fuel cs
      return (c :: s, cs)

/-- A text after its opening quote. -/
def string? (cs : List Char) : Option (String × List Char) :=
  (stringTail? (cs.length + 1) cs).map fun (s, cs) => (String.ofList s, cs)

def digitsValue (ds : List Char) : Nat := ds.foldl (fun n d => 10 * n + (d.toNat - '0'.toNat)) 0

/-- The digits at the front, at least one. -/
def digits? (cs : List Char) : Option (List Char × List Char) :=
  let ds := cs.takeWhile (·.isDigit)
  if ds = [] then none else some (ds, cs.drop ds.length)

/-- The digits after a point, if there is one. -/
def fraction? : Reading (List Char)
  | '.' :: cs => digits? cs
  | cs => some ([], cs)

/-- The exponent, if there is one. -/
def exponent? : Reading (Option Int)
  | e :: cs =>
    if e = 'e' ∨ e = 'E' then do
      let (negative, cs) := match cs with
        | '-' :: cs => (true, cs)
        | '+' :: cs => (false, cs)
        | cs => (false, cs)
      let (ds, cs) ← digits? cs
      let n : Int := digitsValue ds
      return (some (if negative then -n else n), cs)
    else some (none, e :: cs)
  | [] => some (none, [])

/-- A number without its sign. Zeros before other digits are refused; a number without point and exponent
    that fits into 64 bits is an integer. -/
def number? (negative : Bool) (cs : List Char) : Option (Json × List Char) := do
  let (whole, cs) ← digits? cs
  if whole.head? = some '0' ∧ whole.length ≠ 1 then none
  else
    let (fraction, cs) ← fraction? cs
    let (exponent, cs) ← exponent? cs
    let n : Int := digitsValue (whole ++ fraction)
    let n := if negative then -n else n
    let isInteger := fraction = [] ∧ exponent = none ∧ !(negative && n == 0)
    if isInteger ∧ -(wordSize 63 : Int) ≤ n ∧ n < wordSize 64 then return (.int n, cs)
    else return (.decimal ⟨n, exponent.getD 0 - fraction.length⟩, cs)

/-- The items up to the closing bracket, fewer than `fuel`. -/
def itemsTail? (item : Reading Json) : Nat → Reading (List Json)
  | 0, _ => none
  | fuel + 1, cs => do
    let (x, cs) ← item cs
    match skipBlanks cs with
    | ',' :: cs =>
      let (xs, cs) ← itemsTail? item fuel cs
      return (x :: xs, cs)
    | ']' :: cs => return ([x], cs)
    | _ => none

/-- The members up to the closing brace, fewer than `fuel`. -/
def membersTail? (item : Reading Json) : Nat → Reading (List (String × Json))
  | 0, _ => none
  | fuel + 1, cs => do
    let '"' :: cs := skipBlanks cs | none
    let (name, cs) ← string? cs
    let ':' :: cs := skipBlanks cs | none
    let (x, cs) ← item cs
    match skipBlanks cs with
    | ',' :: cs =>
      let (ms, cs) ← membersTail? item fuel cs
      return ((name, x) :: ms, cs)
    | '\x7d' :: cs => return ([(name, x)], cs)
    | _ => none

/-- A value in which lists and objects nest at most `depth` deep. -/
def value? : Nat → Reading Json := fun depth cs =>
  match depth, skipBlanks cs with
  | _, 'n' :: 'u' :: 'l' :: 'l' :: cs => some (.null, cs)
  | _, 't' :: 'r' :: 'u' :: 'e' :: cs => some (.bool true, cs)
  | _, 'f' :: 'a' :: 'l' :: 's' :: 'e' :: cs => some (.bool false, cs)
  | _, '"' :: cs => (string? cs).map fun (s, cs) => (.str s, cs)
  | _, '-' :: cs => number? true cs
  | depth + 1, '[' :: cs =>
    match skipBlanks cs with
    | ']' :: cs => some (.arr [], cs)
    | cs => (itemsTail? (value? depth) (cs.length + 1) cs).map fun (xs, cs) => (.arr xs, cs)
  | depth + 1, '\x7b' :: cs =>
    match skipBlanks cs with
    | '\x7d' :: cs => some (.obj [], cs)
    | cs => (membersTail? (value? depth) (cs.length + 1) cs).map fun (ms, cs) => (.ofPairs ms, cs)
  | _, cs => number? false cs

/-- How deep lists and objects may nest in a text. -/
def depthLimit : Nat := 127

/-- The value that a text holds, and nothing besides. -/
def ofText? (s : String) : Option Json := do
  let (j, cs) ← value? depthLimit s.toList
  if skipBlanks cs = [] then some j else none

end PlatformOperator.Json
