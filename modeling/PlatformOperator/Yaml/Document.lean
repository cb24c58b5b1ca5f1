import PlatformOperator.Yaml.Token
import PlatformOperator.Yaml.Value

/-! YAML documents: the value of each document of a text, up to the first that is none. -/

namespace PlatformOperator.Yaml

/-- What the tokens ahead are read by: the values of anchors and the meaning of tag handles. -/
structure Reader where
  tokens : List Token
  anchors : List (String × Value) := []
  handles : List (String × String) := []

abbrev Read (α : Type) := StateT Reader Option α

namespace Reader

def refuse {α : Type} : Read α := fun _ => none

/-- The next token. A flaw, or the end of tokens, ends the reading. -/
def peek : Read Token := do
  match (← get).tokens with
  | .flaw :: _ | [] => refuse
  | t :: _ => return t

def advance : Read Unit := modify fun r => { r with tokens := r.tokens.drop 1 }

/-- The tag that a handle and a suffix stand for. -/
def resolveTag (handle suffix : String) : Read String := do
  if handle = "" then return suffix
  match (← get).handles.lookup handle with
  | some start => return start ++ suffix
  | none =>
    if handle = "!" then return "!" ++ suffix
    else if handle = "!!" then return "tag:yaml.org,2002:" ++ suffix
    else refuse

/-- An anchor and a tag before a node, in either order. -/
def properties : Nat → Option String → Option String → Read (Option String × Option String)
  | 0, anchor, tag => return (anchor, tag)
  | fuel + 1, anchor, tag => do
    match ← peek with
    | .anchor name =>
      if anchor.isSome then return (anchor, tag)
      advance
      properties fuel (some name) tag
    | .tag handle suffix =>
      if tag.isSome then return (anchor, tag)
      advance
      properties fuel anchor (some (← resolveTag handle suffix))
    | _ => return (anchor, tag)

def bindAnchor (anchor : Option String) (v : Value) : Read Value := do
  match anchor with
  | some name =>
    modify fun r => { r with anchors := (name, v) :: r.anchors }
    return v
  | none => return v

/-- A collection keeps a local tag. -/
def withTag (tag : Option String) (v : Value) : Value :=
  match tag.map String.toList with
  | some ('!' :: name) => .tagged (String.ofList name) v
  | _ => v

def scalar (tag : Option String) (isPlain : Bool) (text : String) : Read Value := fun r =>
  (scalar? tag isPlain text).map (·, r)

/-- A mapping whose keys differ. -/
def mapping (entries : List (Value × Value)) : Read Value := do
  let rec repeated : List (Value × Value) → Bool
    | [] => false
    | (k, _) :: es => es.any (·.1 == k) || repeated es
  if repeated entries then refuse else return .map entries

/-- How deep collections may be nested. -/
def maxDepth : Nat := 128

mutual

/-- A node. Blocks may only start where `block` holds, and a sequence of a mapping's block may stand at
    the column of its key where `flush` holds. -/
def node : Nat → (depth : Nat) → (block flush : Bool) → Read Value
  | 0, _, _, _ => refuse
  | fuel + 1, depth, block, flush => do
    if let .alias name ← peek then
      advance
      match (← get).anchors.lookup name with
      | some v => return v
      | none => refuse
    else
      let (anchor, tag) ← properties 2 none none
      let collection (read : Read Value) : Read Value := do
        if depth = 0 then refuse
        advance
        bindAnchor anchor (withTag tag (← read))
      match ← peek, block, flush with
      | .blockEntry, _, true =>
        if depth = 0 then refuse
        bindAnchor anchor (withTag tag (.seq (← flushItems fuel (depth - 1))))
      | .scalar isPlain text, _, _ =>
        advance
        bindAnchor anchor (← scalar tag isPlain text)
      | .flowSequenceStart, _, _ => collection (return .seq (← flowItems fuel (depth - 1) true))
      | .flowMappingStart, _, _ => collection (do mapping (← flowEntries fuel (depth - 1) true))
      | .blockSequenceStart, true, _ => collection (return .seq (← blockItems fuel (depth - 1)))
      | .blockMappingStart, true, _ => collection (do mapping (← blockEntries fuel (depth - 1)))
      | _, _, _ =>
        if anchor.isSome ∨ tag.isSome then bindAnchor anchor (← scalar tag true "") else refuse

/-- A node, or nothing where one of the `stops` comes next. -/
def nodeUnless : Nat → (depth : Nat) → (block flush : Bool) → (stops : List Token) → Read Value
  | 0, _, _, _, _ => refuse
  | fuel + 1, depth, block, flush, stops => do
    if (← peek) ∈ stops then return .null else node fuel depth block flush

def blockItems : Nat → (depth : Nat) → Read (List Value)
  | 0, _ => refuse
  | fuel + 1, depth => do
    match ← peek with
    | .blockEntry =>
      advance
      let v ← nodeUnless fuel depth true false [.blockEntry, .blockEnd]
      return v :: (← blockItems fuel depth)
    | .blockEnd =>
      advance
      return []
    | _ => refuse

def flushItems : Nat → (depth : Nat) → Read (List Value)
  | 0, _ => refuse
  | fuel + 1, depth => do
    match ← peek with
    | .blockEntry =>
      advance
      let v ← nodeUnless fuel depth true false [.blockEntry, .key, .value, .blockEnd]
      return v :: (← flushItems fuel depth)
    | _ => return []

def blockEntries : Nat → (depth : Nat) → Read (List (Value × Value))
  | 0, _ => refuse
  | fuel + 1, depth => do
    match ← peek with
    | .key =>
      advance
      let k ← nodeUnless fuel depth true true [.key, .value, .blockEnd]
      let v ← entryValue fuel depth true [.key, .value, .blockEnd]
      return (k, v) :: (← blockEntries fuel depth)
    | .blockEnd =>
      advance
      return []
    | _ => refuse

/-- The value behind a colon; nothing without one. -/
def entryValue : Nat → (depth : Nat) → (block : Bool) → (stops : List Token) → Read Value
  | 0, _, _, _ => refuse
  | fuel + 1, depth, block, stops => do
    match ← peek with
    | .value =>
      advance
      nodeUnless fuel depth block block stops
    | _ => return .null

def flowItems : Nat → (depth : Nat) → (first : Bool) → Read (List Value)
  | 0, _, _ => refuse
  | fuel + 1, depth, first => do
    if (← peek) = .flowSequenceEnd then
      advance
      return []
    if !first then
      if (← peek) ≠ .flowEntry then refuse
      advance
    match ← peek with
    | .flowSequenceEnd =>
      advance
      return []
    | .key =>
      if depth = 0 then refuse
      advance
      let k ← nodeUnless fuel (depth - 1) false false [.value, .flowEntry, .flowSequenceEnd]
      let v ← entryValue fuel (depth - 1) false [.flowEntry, .flowSequenceEnd]
      return .map [(k, v)] :: (← flowItems fuel depth false)
    | _ =>
      let v ← node fuel depth false false
      return v :: (← flowItems fuel depth false)

def flowEntries : Nat → (depth : Nat) → (first : Bool) → Read (List (Value × Value))
  | 0, _, _ => refuse
  | fuel + 1, depth, first => do
    if (← peek) = .flowMappingEnd then
      advance
      return []
    if !first then
      if (← peek) ≠ .flowEntry then refuse
      advance
    match ← peek with
    | .flowMappingEnd =>
      advance
      return []
    | .key =>
      advance
      let k ← nodeUnless fuel depth false false [.value, .flowEntry, .flowMappingEnd]
      let v ← entryValue fuel depth false [.flowEntry, .flowMappingEnd]
      return (k, v) :: (← flowEntries fuel depth false)
    | _ =>
      let k ← node fuel depth false false
      return (k, .null) :: (← flowEntries fuel depth false)

end

/-- The directives before a document; each counts once. -/
def directives : Nat → Bool → List (String × String) → Read (List (String × String))
  | 0, _, _ => refuse
  | fuel + 1, versioned, handles => do
    match ← peek with
    | .versionDirective major minor =>
      if versioned ∨ major ≠ 1 ∨ (minor ≠ 1 ∧ minor ≠ 2) then refuse
      advance
      directives fuel true handles
    | .tagDirective handle start =>
      if handles.any (·.1 == handle) then refuse
      advance
      directives fuel versioned (handles ++ [(handle, start)])
    | _ => return handles

def skipEnds : Nat → Read Unit
  | 0 => pure ()
  | fuel + 1 => do
    if (← peek) = .documentEnd then
      advance
      skipEnds fuel

/-- The next document, if there is one. Only the first may begin without a marker. -/
def document? (first : Bool) : Read (Option Value) := do
  let fuel := 4 * (← get).tokens.length + 8
  if !first then skipEnds fuel
  let t ← peek
  if t = .streamEnd then return none
  let handles ← directives fuel false []
  modify fun r => { r with anchors := [], handles }
  let explicit := (← peek) = .documentStart
  if explicit then advance
  else if !first ∨ t ≠ (← peek) then refuse
  let isEmpty := match ← peek with
    | .versionDirective _ _ | .tagDirective _ _ | .documentStart | .documentEnd | .streamEnd => true
    | _ => false
  let v ← if isEmpty then pure .null else node fuel maxDepth true false
  let last ← peek
  if last = .documentEnd then advance
  return some v

/-- The documents one after another; `none` stands for the first that cannot be read. -/
def documents : Nat → (first : Bool) → Reader → List (Option Value)
  | 0, _, _ => []
  | fuel + 1, first, r =>
    match document? first r with
    | none => [none]
    | some (none, _) => []
    | some (some v, r) => some v :: documents fuel false r

end Reader

/-- The values of the documents of a text, up to the first that cannot be read, for which `none` stands. -/
def documents (text : String) : List (Option Value) :=
  let ts := tokens text
  Reader.documents (ts.length + 1) true { tokens := ts }

end PlatformOperator.Yaml
