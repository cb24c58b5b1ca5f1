/-! The tokens of YAML: indicators, scalars, and the starts and ends of blocks that indentation tells. A
    key before a colon is only known at the colon, and its tokens are then put in front of it. -/

namespace PlatformOperator.Yaml

inductive Token where
  | versionDirective (major minor : Nat)
  | tagDirective (handle start : String)
  | documentStart
  | documentEnd
  | blockSequenceStart
  | blockMappingStart
  | blockEnd
  | flowSequenceStart
  | flowSequenceEnd
  | flowMappingStart
  | flowMappingEnd
  | blockEntry
  | flowEntry
  | key
  | value
  | alias (name : String)
  | anchor (name : String)
  | tag (handle suffix : String)
  | scalar (isPlain : Bool) (text : String)
  | streamEnd
  /-- Here the text stops being YAML. -/
  | flaw
  deriving DecidableEq, Repr, Inhabited

/-! ### Characters -/

def isBreak (c : Char) : Bool := c == '\n' || c == '\r' || c.toNat == 0x85 || c.toNat == 0x2028 || c.toNat == 0x2029

def isBlank (c : Char) : Bool := c == ' ' || c == '\t'

/-- A blank, a line break or the end. -/
def isGap (c : Option Char) : Bool := c.all fun c => isBlank c || isBreak c

def isEndOfLine (c : Option Char) : Bool := c.all isBreak

def isWordChar (c : Char) : Bool := c.isAlphanum || c == '_' || c == '-'

/-- Whether a text may hold the character at all. -/
def isAllowed (c : Char) : Bool :=
  let n := c.toNat
  n == 0x9 || n == 0xA || n == 0xD || (0x20 ≤ n && n ≤ 0x7E) || n == 0x85 || (0xA0 ≤ n && n ≤ 0xD7FF) ||
    (0xE000 ≤ n && n ≤ 0xFFFD) || 0x10000 ≤ n

/-! ### The place in the text -/

/-- The characters ahead, and where they are. -/
structure Cursor where
  rest : List Char
  index : Nat := 0
  line : Nat := 0
  column : Nat := 0

namespace Cursor

def peek (c : Cursor) (n : Nat) : Option Char := c.rest[n]?

/-- Goes on by one character of the line. -/
def skip (c : Cursor) : Cursor := { c with rest := c.rest.drop 1, index := c.index + 1, column := c.column + 1 }

def skipN : Nat → Cursor → Cursor
  | 0, c => c
  | n + 1, c => skipN n c.skip

/-- Goes on past a line break, if one comes next, and tells how the text keeps it. -/
def readBreak (c : Cursor) : List Char × Cursor :=
  match c.rest with
  | '\r' :: '\n' :: rest => (['\n'], { rest, index := c.index + 2, line := c.line + 1 })
  | d :: rest =>
    if isBreak d then
      ([if d.toNat == 0x2028 || d.toNat == 0x2029 then d else '\n'],
        { rest, index := c.index + 1, line := c.line + 1 })
    else ([], c)
  | [] => ([], c)

/-- The characters of the line as long as `p` holds, and the place behind them. -/
def readWhile (p : Char → Bool) (c : Cursor) : List Char × Cursor :=
  let cs := c.rest.takeWhile fun d => !isBreak d && p d
  (cs, c.skipN cs.length)

/-- Whether a document marker stands here: three of `d` at the start of a line, then a gap. -/
def atMarker (d : Char) (c : Cursor) : Bool :=
  c.column == 0 && c.rest.take 3 == [d, d, d] && isGap (c.peek 3)

def atDocumentMarker (c : Cursor) : Bool := c.atMarker '-' || c.atMarker '.'

end Cursor

/-! ### Scalars -/

/-- Joins the lines of a scalar that is not a block: a single break becomes a space, of several breaks
    the first is dropped. -/
def foldBreaks (first more : List Char) : List Char :=
  if first = ['\n'] then (if more = [] then [' '] else more) else first ++ more

/-- Blanks and breaks between the words of a scalar: the blanks of the first line, whether there was a
    break, the first break and the further ones. -/
structure Spacing where
  blanks : List Char := []
  broken : Bool := false
  first : List Char := []
  more : List Char := []

def Spacing.text (s : Spacing) : List Char := if s.broken then foldBreaks s.first s.more else s.blanks

/-- Reads blanks and breaks. A tab before column `indent` of a later line is refused. -/
def readSpacing (indent : Nat) : Nat → Spacing → Cursor → Option (Spacing × Cursor)
  | 0, s, c => some (s, c)
  | fuel + 1, s, c =>
    match c.rest with
    | d :: _ =>
      if isBlank d then
        if s.broken then
          if d = '\t' ∧ c.column < indent then none else readSpacing indent fuel s c.skip
        else readSpacing indent fuel { s with blanks := s.blanks ++ [d] } c.skip
      else if isBreak d then
        let (b, c) := c.readBreak
        readSpacing indent fuel
          (if s.broken then { s with more := s.more ++ b } else { s with blanks := [], broken := true, first := b }) c
      else some (s, c)
    | [] => some (s, c)

def isFlowIndicator (c : Char) : Bool := c ∈ [',', '[', ']', '{', '}']

/-- The characters of a plain scalar up to the next gap or its end. -/
def readPlainWord (inFlow : Bool) : Nat → Cursor → Option (List Char × Cursor)
  | 0, c => some ([], c)
  | fuel + 1, c =>
    match c.rest with
    | [] => some ([], c)
    | d :: _ =>
      if isGap (some d) then some ([], c)
      else if inFlow && d == ':' && (c.peek 1).any fun e => e == '?' || isFlowIndicator e then none
      else if (d == ':' && isGap (c.peek 1)) || (inFlow && isFlowIndicator d) then some ([], c)
      else (readPlainWord inFlow fuel c.skip).map fun (cs, c) => (d :: cs, c)

/-- The words of a plain scalar, joined by what stands between them. The flag tells whether the scalar
    was followed by a line break. -/
def readPlain (inFlow : Bool) (indent : Nat) : Nat → Spacing → Cursor → Option (List Char × Bool × Cursor)
  | 0, s, c => some ([], s.broken, c)
  | fuel + 1, s, c => do
    if c.atDocumentMarker || c.peek 0 == some '#' then return ([], s.broken, c)
    let (word, after) ← readPlainWord inFlow (c.rest.length + 1) c
    let text := if word = [] then [] else s.text ++ word
    let s := if word = [] then s else {}
    if !(after.peek 0).any fun d => isBlank d || isBreak d then return (text, s.broken, after)
    let (s, after) ← readSpacing indent (after.rest.length + 1) s after
    if !inFlow && after.column < indent then return (text, s.broken, after)
    let (more, broken, after) ← readPlain inFlow indent fuel s after
    return (text ++ more, broken, after)

/-- The number that `n` hexadecimal digits write. -/
def hexDigits? (n : Nat) (cs : List Char) : Option Nat :=
  let ds := cs.take n
  if ds.length < n then none
  else ds.foldlM (fun acc d =>
    if d.isDigit then some (acc * 16 + (d.toNat - '0'.toNat))
    else if 'a' ≤ d ∧ d ≤ 'f' then some (acc * 16 + (d.toNat - 'a'.toNat + 10))
    else if 'A' ≤ d ∧ d ≤ 'F' then some (acc * 16 + (d.toNat - 'A'.toNat + 10))
    else none) 0

/-- The character behind a backslash, and how many characters write it. -/
def escape? : List Char → Option (Char × Nat)
  | [] => none
  | d :: cs =>
    let code (n : Nat) : Option (Char × Nat) := do
      let v ← hexDigits? n cs
      if v.isValidChar then return (Char.ofNat v, n + 1) else none
    match d with
    | '0' => some ('\x00', 1)
    | 'a' => some ('\x07', 1)
    | 'b' => some ('\x08', 1)
    | 't' | '\t' => some ('\t', 1)
    | 'n' => some ('\n', 1)
    | 'v' => some ('\x0b', 1)
    | 'f' => some ('\x0c', 1)
    | 'r' => some ('\r', 1)
    | 'e' => some ('\x1b', 1)
    | ' ' | '"' | '/' | '\\' => some (d, 1)
    | 'N' => some (Char.ofNat 0x85, 1)
    | '_' => some (Char.ofNat 0xA0, 1)
    | 'L' => some (Char.ofNat 0x2028, 1)
    | 'P' => some (Char.ofNat 0x2029, 1)
    | 'x' => code 2
    | 'u' => code 4
    | 'U' => code 8
    | _ => none

/-- The characters of a quoted scalar up to a gap or the closing quote; the flag tells of a break that a
    backslash hides. -/
def readQuotedWord (single : Bool) : Nat → Cursor → Option (List Char × Bool × Cursor)
  | 0, c => some ([], false, c)
  | fuel + 1, c =>
    match c.rest with
    | [] => some ([], false, c)
    | d :: _ =>
      if isGap (some d) then some ([], false, c)
      else if single && d == '\'' then
        if c.peek 1 == some '\'' then
          (readQuotedWord single fuel (c.skipN 2)).map fun (cs, b, c) => (d :: cs, b, c)
        else some ([], false, c)
      else if !single && d == '"' then some ([], false, c)
      else if !single && d == '\\' then
        if (c.peek 1).any isBreak then some ([], true, c.skip.readBreak.2)
        else do
          let (e, n) ← escape? (c.rest.drop 1)
          let (cs, b, c) ← readQuotedWord single fuel (c.skipN (n + 1))
          return (e :: cs, b, c)
      else (readQuotedWord single fuel c.skip).map fun (cs, b, c) => (d :: cs, b, c)

/-- A quoted scalar from behind its opening quote, past the closing one. -/
def readQuoted (single : Bool) : Nat → Cursor → Option (List Char × Cursor)
  | 0, _ => none
  | fuel + 1, c => do
    if c.atDocumentMarker then none
    if c.rest = [] then none
    let (word, hidden, c) ← readQuotedWord single (c.rest.length + 1) c
    if c.peek 0 == some (if single then '\'' else '"') && !hidden then return (word, c.skip)
    let (s, c) ← readSpacing 0 (c.rest.length + 1) { broken := hidden } c
    if c.peek 0 == some (if single then '\'' else '"') && hidden && s.first == [] && s.more == [] && s.blanks == [] then
      return (word, c.skip)
    let (more, c) ← readQuoted single fuel c
    return (word ++ s.text ++ more, c)

/-- The breaks before the next line of a block scalar. Where `indent` is still zero, the deepest column
    reached is told too. -/
def readBlockBreaks (indent : Nat) : Nat → Nat → List Char → Cursor → Option (List Char × Nat × Cursor)
  | 0, deepest, bs, c => some (bs, deepest, c)
  | fuel + 1, deepest, bs, c =>
    let spaces := c.rest.takeWhile (· == ' ')
    let c := c.skipN (if indent = 0 then spaces.length else min spaces.length (indent - c.column))
    let deepest := max deepest c.column
    if (indent = 0 ∨ c.column < indent) ∧ c.peek 0 = some '\t' then none
    else if (c.peek 0).any isBreak then
      let (b, c) := c.readBreak
      readBlockBreaks indent fuel deepest (bs ++ b) c
    else some (bs, deepest, c)

/-- The lines of a block scalar of a known indentation. The result ends with the last break and the
    breaks behind it, which chomping keeps or drops. -/
def readBlockLines (literal : Bool) (indent : Nat) :
    Nat → Bool → List Char → List Char → Cursor → Option (List Char × List Char × List Char × Cursor)
  | 0, _, first, more, c => some ([], first, more, c)
  | fuel + 1, wasBlank, first, more, c => do
    if c.column ≠ indent ∨ c.rest = [] then return ([], first, more, c)
    let startsBlank := (c.peek 0).any isBlank
    let joint :=
      if !literal && first == ['\n'] && !wasBlank && !startsBlank then (if more = [] then [' '] else []) else first
    let (line, c) := c.readWhile fun _ => true
    let (b, c) := c.readBreak
    let (bs, _, c) ← readBlockBreaks indent (c.rest.length + 1) 0 [] c
    let (text, first, more', c) ← readBlockLines literal indent fuel startsBlank b bs c
    return (joint ++ more ++ line ++ text, first, more', c)

/-- The header of a block scalar: the chomping sign and the indentation, in either order. -/
def readBlockHeader (c : Cursor) : Option (Option Char × Nat × Cursor) := do
  let sign (c : Cursor) : Option Char × Cursor :=
    match c.peek 0 with
    | some '+' => (some '+', c.skip)
    | some '-' => (some '-', c.skip)
    | _ => (none, c)
  let digit (c : Cursor) : Option (Nat × Cursor) :=
    match c.peek 0 with
    | some d => if d = '0' then none else if d.isDigit then some (d.toNat - '0'.toNat, c.skip) else some (0, c)
    | none => some (0, c)
  let (chomping, c) := sign c
  let (increment, c) ← digit c
  let (chomping, c) := if chomping.isNone ∧ increment ≠ 0 then sign c else (chomping, c)
  let (_, c) := c.readWhile isBlank
  let c := if c.peek 0 == some '#' then (c.readWhile fun _ => true).2 else c
  if isEndOfLine (c.peek 0) then return (chomping, increment, c.readBreak.2) else none

/-- A block scalar from behind its indicator, inside a block of indentation `parent`. -/
def readBlock (literal : Bool) (parent : Int) (c : Cursor) : Option (List Char × Cursor) := do
  let (chomping, increment, c) ← readBlockHeader c
  let given : Nat := if increment = 0 then 0 else if 0 ≤ parent then (parent + increment).toNat else increment
  let (bs, deepest, c) ← readBlockBreaks given (c.rest.length + 1) 0 [] c
  let indent := if given = 0 then max (max deepest (parent + 1).toNat) 1 else given
  let (text, first, more, c) ← readBlockLines literal indent (c.rest.length + 1) false [] bs c
  return (text ++ (if chomping = some '-' then [] else first) ++ (if chomping = some '+' then more else []), c)

/-! ### Tags, anchors, directives -/

/-- The name of an anchor or alias, from behind its indicator. -/
def readAnchor (c : Cursor) : Option (String × Cursor) :=
  let (name, c) := c.readWhile isWordChar
  if name ≠ [] ∧ (c.peek 0).all (fun d =>
      isGap (some d) || d ∈ ['?', ':', ',', ']', '}', '%', '@', Char.ofNat 0x60]) then
    some (String.ofList name, c)
  else none

def isTagChar (c : Char) : Bool :=
  isWordChar c || c ∈ [';', '/', '?', ':', '@', '&', '=', '+', '$', '.', '%', '!', '~', '*', '\'', '(', ')']

/-- A tag: verbatim, by a named handle, or by the primary one. -/
def readTag (inFlow : Bool) (c : Cursor) : Option (Token × Cursor) := do
  let (token, c) ← match c.peek 1 with
    | some '<' =>
      let (name, c) := (c.skipN 2).readWhile fun d => isTagChar d || d ∈ [',', '[', ']']
      if name ≠ [] ∧ c.peek 0 = some '>' then some (Token.tag "" (String.ofList name), c.skip) else none
    | _ =>
      let (word, c₁) := c.skip.readWhile isWordChar
      if c₁.peek 0 = some '!' then
        let (suffix, c₂) := c₁.skip.readWhile isTagChar
        if suffix = [] then none
        else some (.tag (String.ofList ('!' :: word ++ ['!'])) (String.ofList suffix), c₂)
      else
        let (suffix, c₂) := c.skip.readWhile isTagChar
        if suffix = [] then some (.tag "" "!", c₂) else some (.tag "!" (String.ofList suffix), c₂)
  if (inFlow ∧ c.peek 0 = some ',') ∨ isGap (c.peek 0) then return (token, c) else none

/-- Blanks and a comment up to the end of the line. -/
def skipComment (c : Cursor) : Option Cursor :=
  let (_, c) := c.readWhile isBlank
  let c := if c.peek 0 == some '#' then (c.readWhile fun _ => true).2 else c
  if isEndOfLine (c.peek 0) then some c.readBreak.2 else none

/-- A directive, from behind its percent sign. -/
def readDirective (c : Cursor) : Option (Token × Cursor) := do
  let (name, c) := c.readWhile isWordChar
  if !isGap (c.peek 0) then none
  let (_, c) := c.readWhile isBlank
  let number (cs : List Char) : Nat := cs.foldl (fun n d => n * 10 + (d.toNat - '0'.toNat)) 0
  match String.ofList name with
  | "YAML" =>
    let (major, c) := c.readWhile Char.isDigit
    if major = [] ∨ c.peek 0 ≠ some '.' then none
    let (minor, c) := c.skip.readWhile Char.isDigit
    if minor = [] then none
    return (.versionDirective (number major) (number minor), ← skipComment c)
  | "TAG" =>
    if c.peek 0 ≠ some '!' then none
    let (word, c) := c.skip.readWhile isWordChar
    let (handle, c) ← if c.peek 0 = some '!' then some ('!' :: word ++ ['!'], c.skip)
      else if word = [] then some (['!'], c) else none
    if !(c.peek 0).any isBlank then none
    let (_, c) := c.readWhile isBlank
    let (start, c) := c.readWhile fun d => isTagChar d || d ∈ [',', '[', ']']
    if start = [] ∨ !isGap (c.peek 0) then none
    return (.tagDirective (String.ofList handle) (String.ofList start), ← skipComment c)
  | _ => none

/-! ### The scan -/

/-- A token that turns out to be a key if a colon follows on its line. -/
structure PossibleKey where
  required : Bool
  /-- The number of tokens before it. -/
  place : Nat
  index : Nat
  line : Nat
  column : Nat

structure Scanner where
  cursor : Cursor
  tokens : Array Token := #[]
  /-- The indentation of the block at hand and of those around it. -/
  indent : Int := -1
  outer : List Int := []
  /-- The possible key of each open flow collection, the innermost first, and of the block. -/
  keys : List (Option PossibleKey) := [none]
  keyAllowed : Bool := true

namespace Scanner

def inFlow (s : Scanner) : Bool := 1 < s.keys.length

def emit (t : Token) (s : Scanner) : Scanner := { s with tokens := s.tokens.push t }

/-- Puts a token in front of those from `place` on. -/
def insertAt (place : Nat) (t : Token) (s : Scanner) : Scanner :=
  let ts := s.tokens.toList
  { s with tokens := (ts.take place ++ t :: ts.drop place).toArray }

/-- Forgets the possible keys that are on an earlier line or too far back; a required one must not be. -/
def checkKeys (s : Scanner) : Option Scanner := do
  let keys ← s.keys.mapM fun k =>
    match k with
    | none => some none
    | some k =>
      if k.line < s.cursor.line ∨ k.index + 1024 < s.cursor.index then (if k.required then none else some none)
      else some (some k)
  return { s with keys }

def dropKey (s : Scanner) : Option Scanner :=
  match s.keys with
  | some k :: keys => if k.required then none else some { s with keys := none :: keys }
  | _ => some s

/-- Remembers that the next token may be a key. -/
def saveKey (s : Scanner) : Option Scanner :=
  if s.keyAllowed then do
    let s ← s.dropKey
    let key : PossibleKey :=
      { required := !s.inFlow && s.indent == s.cursor.column, place := s.tokens.size, index := s.cursor.index,
        line := s.cursor.line, column := s.cursor.column }
    return { s with keys := some key :: s.keys.drop 1 }
  else some s

/-- Opens a block at a deeper column. -/
def roll (column place : Nat) (t : Token) (s : Scanner) : Scanner :=
  if !s.inFlow && s.indent < column then
    { s.insertAt place t with outer := s.indent :: s.outer, indent := column }
  else s

/-- Closes the blocks that are deeper than `column`. -/
def unroll (column : Int) : List Int → Scanner → Scanner
  | [], s => s
  | i :: is, s =>
    if column < s.indent then unroll column is { s.emit .blockEnd with indent := i, outer := is } else s

def unrollTo (column : Int) (s : Scanner) : Scanner := if s.inFlow then s else unroll column s.outer s

/-- Goes on past blanks, comments and line breaks to the next token. -/
def toNextToken : Nat → Scanner → Scanner
  | 0, s => s
  | fuel + 1, s =>
    let c := s.cursor
    match c.rest with
    | d :: _ =>
      if c.index = 0 ∧ d.toNat = 0xFEFF then toNextToken fuel { s with cursor := c.skip }
      else if d = ' ' ∨ (d = '\t' ∧ (s.inFlow ∨ !s.keyAllowed)) then toNextToken fuel { s with cursor := c.skip }
      else if d = '#' then toNextToken fuel { s with cursor := (c.readWhile fun _ => true).2 }
      else if isBreak d then
        toNextToken fuel { s with cursor := c.readBreak.2, keyAllowed := s.keyAllowed || !s.inFlow }
      else s
    | [] => s

/-- A token of one character, or of the three of a document marker. -/
def indicator (t : Token) (width : Nat) (s : Scanner) : Scanner :=
  { s.emit t with cursor := s.cursor.skipN width }

def withoutKeys (allowed : Bool) (s : Scanner) : Scanner := { s with keyAllowed := allowed }

/-- A marker that ends all blocks. -/
def documentMarker (t : Token) (s : Scanner) : Option Scanner := do
  let s ← (s.unrollTo (-1)).dropKey
  return (s.withoutKeys false).indicator t 3

def flowStart (t : Token) (s : Scanner) : Option Scanner := do
  let s ← s.saveKey
  return { s.indicator t 1 with keys := none :: s.keys, keyAllowed := true }

def flowEnd (t : Token) (s : Scanner) : Option Scanner := do
  let s ← s.dropKey
  return { s.indicator t 1 with keys := if s.inFlow then s.keys.drop 1 else s.keys, keyAllowed := false }

def blockEntry (s : Scanner) : Option Scanner := do
  if !s.inFlow && !s.keyAllowed then none
  let s ← (s.roll s.cursor.column s.tokens.size .blockSequenceStart).dropKey
  return (s.withoutKeys true).indicator .blockEntry 1

def explicitKey (s : Scanner) : Option Scanner := do
  if !s.inFlow && !s.keyAllowed then none
  let s ← (s.roll s.cursor.column s.tokens.size .blockMappingStart).dropKey
  return (s.withoutKeys (!s.inFlow)).indicator .key 1

/-- A colon: what may be a key becomes one. -/
def colon (s : Scanner) : Option Scanner := do
  match s.keys with
  | some k :: keys =>
    let s := ({ s with keys := none :: keys }.insertAt k.place .key).roll k.column k.place .blockMappingStart
    return (s.withoutKeys false).indicator .value 1
  | _ =>
    if !s.inFlow && !s.keyAllowed then none
    let s := s.roll s.cursor.column s.tokens.size .blockMappingStart
    return (s.withoutKeys (!s.inFlow)).indicator .value 1

/-- A token that may be a key itself. -/
def keyLike (read : Cursor → Option (Token × Cursor)) (s : Scanner) : Option Scanner := do
  let s ← s.saveKey
  let (t, cursor) ← read s.cursor
  return { (s.withoutKeys false).emit t with cursor }

def blockScalar (literal : Bool) (s : Scanner) : Option Scanner := do
  let s ← s.dropKey
  let (text, cursor) ← readBlock literal s.indent s.cursor.skip
  return { (s.withoutKeys true).emit (.scalar false (String.ofList text)) with cursor }

def plainScalar (s : Scanner) : Option Scanner := do
  let s ← s.saveKey
  let (text, broken, cursor) ← readPlain s.inFlow (s.indent + 1).toNat (s.cursor.rest.length + 1) {} s.cursor
  return { (s.withoutKeys broken).emit (.scalar true (String.ofList text)) with cursor }

def directive (s : Scanner) : Option Scanner := do
  let s ← (s.unrollTo (-1)).dropKey
  let (t, cursor) ← readDirective s.cursor.skip
  return { (s.withoutKeys false).emit t with cursor }

def finish (s : Scanner) : Option Scanner := do
  let s ← (s.unrollTo (-1)).dropKey
  return (s.withoutKeys false).emit .streamEnd

/-- Whether a plain scalar can start with `d`, followed by `next`. -/
def startsPlain (inFlow : Bool) (d : Char) (next : Option Char) : Bool :=
  if d = '-' then !next.any isBlank
  else if d = '?' ∨ d = ':' then !inFlow && !isGap next
  else !isGap (some d) &&
    d ∉ [',', '[', ']', '{', '}', '#', '&', '*', '!', '|', '>', '\'', '"', '%', '@', Char.ofNat 0x60]

/-- The next token, and those that it entails. -/
def next (s : Scanner) : Option Scanner := do
  let s ← (toNextToken (s.cursor.rest.length + 1) s).checkKeys
  let s := s.unrollTo s.cursor.column
  let c := s.cursor
  match c.rest with
  | [] => s.finish
  | d :: _ =>
    let spaced := isGap (c.peek 1)
    if c.column = 0 ∧ d = '%' then s.directive
    else if c.atMarker '-' then s.documentMarker .documentStart
    else if c.atMarker '.' then s.documentMarker .documentEnd
    else if d = '[' then s.flowStart .flowSequenceStart
    else if d = '{' then s.flowStart .flowMappingStart
    else if d = ']' then s.flowEnd .flowSequenceEnd
    else if d = '}' then s.flowEnd .flowMappingEnd
    else if d = ',' then return ((← s.dropKey).withoutKeys true).indicator .flowEntry 1
    else if d = '-' ∧ spaced then s.blockEntry
    else if d = '?' ∧ (s.inFlow ∨ spaced) then s.explicitKey
    else if d = ':' ∧ (s.inFlow ∨ spaced) then s.colon
    else if d = '*' then s.keyLike fun c => (readAnchor c.skip).map fun (n, c) => (.alias n, c)
    else if d = '&' then s.keyLike fun c => (readAnchor c.skip).map fun (n, c) => (.anchor n, c)
    else if d = '!' then s.keyLike (readTag s.inFlow)
    else if d = '|' ∧ !s.inFlow then s.blockScalar true
    else if d = '>' ∧ !s.inFlow then s.blockScalar false
    else if d = '\'' ∨ d = '"' then
      s.keyLike fun c => (readQuoted (d = '\'') (c.rest.length + 1) c.skip).map fun (t, c) =>
        (.scalar false (String.ofList t), c)
    else if startsPlain s.inFlow d (c.peek 1) then s.plainScalar
    else none

/-- All tokens up to the end of the stream or the first flaw. -/
def run : Nat → Scanner → Array Token
  | 0, s => s.tokens.push .flaw
  | fuel + 1, s =>
    match s.next with
    | none => s.tokens.push .flaw
    | some s => if s.tokens.back? = some .streamEnd then s.tokens else run fuel s

end Scanner

/-- The tokens of a text. Every token but the last one takes a character at least. -/
def tokens (text : String) : List Token :=
  let cs := text.toList
  if cs.all isAllowed then (Scanner.run (cs.length + 2) { cursor := { rest := cs } }).toList else [.flaw]

end PlatformOperator.Yaml
