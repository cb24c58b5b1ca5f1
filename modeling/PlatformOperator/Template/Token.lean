import PlatformOperator.Text.Split

/-! The tokens of a template: text between tags, and the words, literals and symbols inside of them. -/

namespace PlatformOperator.Template

inductive Token where
  | text (content : String)
  /-- The start of a tag that prints a value. -/
  | printStart
  | printEnd
  /-- The start of a tag that states something. -/
  | tagStart
  | tagEnd
  | word (name : String)
  | str (content : String)
  | int (value : Nat)
  | symbol (text : String)
  deriving DecidableEq, Repr, Inhabited

/-! ### Literals -/

def isWordStart (c : Char) : Bool := c.isAlpha || c == '_'

def isWordChar (c : Char) : Bool := c.isAlphanum || c == '_'

/-- A blank inside of a tag. -/
def isSpace (c : Char) : Bool := c == ' ' || c == '\t' || c == '\n' || c == '\r' || c == '\x0c'

/-- The character that follows a backslash in a string. -/
def escaped? : Char → Option Char
  | 'n' => some '\n'
  | 't' => some '\t'
  | 'r' => some '\r'
  | 'b' => some '\x08'
  | 'f' => some '\x0c'
  | c => if c ∈ ['"', '\'', '\\', '/'] then some c else none

/-- The content of a string behind its opening quote, and what follows the closing one. -/
def string? (quote : Char) : List Char → Option (List Char × List Char)
  | [] => none
  | '\\' :: c :: cs => do
    let c ← escaped? c
    let (s, rest) ← string? quote cs
    return (c :: s, rest)
  | c :: cs =>
    if c = quote then some ([], cs)
    else (string? quote cs).map fun p => (c :: p.1, p.2)

def number (digits : List Char) : Nat := digits.foldl (fun n c => n * 10 + (c.toNat - '0'.toNat)) 0

/-! ### Tags -/

/-- A tag prints or states. -/
inductive TagKind where
  | print
  | statement
  deriving DecidableEq, Repr

def TagKind.closing : TagKind → List Char
  | .print => ['}', '}']
  | .statement => ['%', '}']

def TagKind.start : TagKind → Token
  | .print => .printStart
  | .statement => .tagStart

def TagKind.finish : TagKind → Token
  | .print => .printEnd
  | .statement => .tagEnd

/-- The end of a tag: what follows it, and whether a dash strips the blanks there. -/
def closing? (kind : TagKind) : List Char → Option (Bool × List Char)
  | '-' :: cs => if kind.closing.isPrefixOf cs then some (true, cs.drop 2) else none
  | '+' :: cs => if kind.closing.isPrefixOf cs then some (false, cs.drop 2) else none
  | cs => if kind.closing.isPrefixOf cs then some (false, cs.drop 2) else none

def symbols : List String :=
  ["//", "**", "==", "!=", ">=", "<=", ".", "~", "+", "-", "*", "/", "%", "!", ">", "<", "=", "|", ",", ":", "(", ")",
    "[", "]", "\x7b", "\x7d"]

/-- The next word, literal or symbol inside of a tag. -/
def inner? : List Char → Option (Token × List Char)
  | [] => none
  | c :: cs =>
    if isWordStart c then
      some (.word (String.ofList (c :: cs.takeWhile isWordChar)), cs.dropWhile isWordChar)
    else if c.isDigit then some (.int (number (c :: cs.takeWhile Char.isDigit)), cs.dropWhile Char.isDigit)
    else if c = '"' ∨ c = '\'' then (string? c cs).map fun p => (.str (String.ofList p.1), p.2)
    else (symbols.find? fun s => s.toList.isPrefixOf (c :: cs)).map fun s => (.symbol s, (c :: cs).drop s.length)

/-- The tokens of a tag up to its end, what follows the end, and whether that is stripped. -/
def tag? (kind : TagKind) : Nat → List Char → Option (List Token × Bool × List Char)
  | 0, _ => none
  | fuel + 1, cs =>
    let cs := cs.dropWhile isSpace
    match closing? kind cs with
    | some (strips, rest) => some ([kind.finish], strips, rest)
    | none => do
      let (t, rest) ← inner? cs
      let (ts, strips, rest) ← tag? kind fuel rest
      return (t :: ts, strips, rest)

/-! ### Raw text -/

/-- Skips the rest of a tag that consists of one word. -/
def wordTag? (name : List Char) (cs : List Char) : Option (Bool × List Char) :=
  let cs := cs.dropWhile isSpace
  if name.isPrefixOf cs then closing? .statement ((cs.drop name.length).dropWhile isSpace) else none

/-- Whether a dash or a plus comes next, and what follows it. -/
def mark (cs : List Char) : Option Char × List Char :=
  match cs with
  | '-' :: cs => (some '-', cs)
  | '+' :: cs => (some '+', cs)
  | cs => (none, cs)

/-- Raw text up to the tag that ends it: the text, whether that tag strips the text and what follows it. -/
def raw? : List Char → Option (List Char × Bool × Bool × List Char)
  | [] => none
  | c :: cs =>
    let ending := match c, cs with
      | '{', '%' :: cs =>
        let (m, cs) := mark cs
        (wordTag? ['e', 'n', 'd', 'r', 'a', 'w'] cs).map fun p => ([], m == some '-', p)
      | _, _ => none
    ending <|> (raw? cs).map fun p => (c :: p.1, p.2)

/-! ### Templates -/

/-- The text before the first tag, and the tag with what follows. -/
def untilTag : List Char → List Char × List Char
  | [] => ([], [])
  | c :: cs =>
    if c = '{' ∧ (cs.head? = some '{' ∨ cs.head? = some '%' ∨ cs.head? = some '#') then ([], c :: cs)
    else
      let (lead, rest) := untilTag cs
      (c :: lead, rest)

/-- The content of a comment, and what follows it. -/
def comment? : List Char → Option (List Char × List Char)
  | [] => none
  | '#' :: '}' :: cs => some ([], cs)
  | c :: cs => (comment? cs).map fun p => (c :: p.1, p.2)

def stripStart (cs : List Char) : List Char := cs.dropWhile Text.isBlank

def stripEnd (cs : List Char) : List Char := (cs.reverse.dropWhile Text.isBlank).reverse

def textTokens (cs : List Char) : List Token := if cs = [] then [] else [.text (String.ofList cs)]

/-- The tokens from outside of any tag on. -/
def scan? : Nat → (strips : Bool) → List Char → Option (List Token)
  | 0, _, _ => none
  | fuel + 1, strips, cs =>
    let (lead, rest) := untilTag cs
    let lead := if strips then stripStart lead else lead
    match rest with
    | '{' :: opening :: cs => do
      let (m, cs) := mark cs
      let lead := textTokens (if m = some '-' then stripEnd lead else lead)
      if opening = '#' then
        let (content, cs) ← comment? cs
        return lead ++ (← scan? fuel (content.getLast? == some '-') cs)
      else if opening = '{' then
        let (ts, strips, cs) ← tag? .print cs.length.succ cs
        return lead ++ TagKind.print.start :: ts ++ (← scan? fuel strips cs)
      else match wordTag? ['r', 'a', 'w'] cs with
        | some (stripsRaw, cs) =>
          let (content, stripsEnd, strips, cs) ← raw? cs
          let content := if stripsRaw then stripStart content else content
          let content := if stripsEnd then stripEnd content else content
          return lead ++ textTokens content ++ (← scan? fuel strips cs)
        | none =>
          let (ts, strips, cs) ← tag? .statement cs.length.succ cs
          return lead ++ TagKind.statement.start :: ts ++ (← scan? fuel strips cs)
    | _ => some (textTokens lead)

/-- Without the line break at the very end. -/
def withoutLastBreak (cs : List Char) : List Char :=
  let drop (c : Char) (cs : List Char) : List Char := if cs.getLast? = some c then cs.dropLast else cs
  drop '\r' (drop '\n' cs)

/-- The tokens of a template. Every scan but the last takes a tag at least. -/
def tokens? (source : String) : Option (List Token) :=
  let cs := withoutLastBreak source.toList
  scan? (cs.length + 1) false cs

end PlatformOperator.Template
