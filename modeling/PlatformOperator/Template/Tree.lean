import PlatformOperator.Json
import PlatformOperator.Template.Token

/-! The syntax trees of templates, and how they are built from tokens. -/

namespace PlatformOperator.Template

inductive Operator where
  | add
  | subtract
  | multiply
  | floorDivide
  | remainder
  | concat
  | equal
  | unequal
  | less
  | lessEqual
  | greater
  | greaterEqual
  | isIn
  deriving DecidableEq, Repr

inductive Expr where
  | const (value : Json)
  | name (name : String)
  | member (subject : Expr) (name : String)
  | subscript (subject index : Expr)
  | list (items : List Expr)
  | not (operand : Expr)
  | negate (operand : Expr)
  | and (left right : Expr)
  | or (left right : Expr)
  | binary (operator : Operator) (left right : Expr)
  | filter (name : String) (subject : Expr) (arguments : List Expr)
  | test (name : String) (subject : Expr)
  deriving Repr, Inhabited

inductive Node where
  | text (content : String)
  | print (value : Expr)
  | branch (condition : Expr) (body otherwise : List Node)
  /-- Runs the body for every item; `otherwise` where there is none. -/
  | loop (targets : List String) (items : Expr) (body otherwise : List Node)
  | assign (targets : List String) (value : Expr)
  /-- Assigns what the body prints. -/
  | capture (target : String) (body : List Node)
  deriving Repr, Inhabited

/-- Reads from the tokens ahead; `none` stands for an error of syntax. -/
abbrev Reader := StateT (List Token) Option

namespace Reader

/-- Takes the next token if it is `t`. -/
def accept (t : Token) : Reader Bool := do
  match ← get with
  | u :: ts => if u = t then set ts; return true else return false
  | [] => return false

def expect (t : Token) : Reader Unit := do
  if !(← accept t) then failure

def word : Reader String := do
  match ← get with
  | .word w :: ts => set ts; return w
  | _ => failure

/-! ### Expressions -/

/-- The operator that the next symbol stands for, if it is one of `table`. -/
def operator? (table : List (Token × Operator)) : Reader (Option Operator) := do
  match ← get with
  | t :: ts =>
    match table.lookup t with
    | some op => set ts; return some op
    | none => return none
  | [] => return none

def comparisons : List (Token × Operator) :=
  [(.symbol "==", .equal), (.symbol "!=", .unequal), (.symbol "<", .less), (.symbol "<=", .lessEqual),
    (.symbol ">", .greater), (.symbol ">=", .greaterEqual), (.word "in", .isIn)]

def sums : List (Token × Operator) := [(.symbol "+", .add), (.symbol "-", .subtract)]

def joins : List (Token × Operator) := [(.symbol "~", .concat)]

def products : List (Token × Operator) :=
  [(.symbol "*", .multiply), (.symbol "//", .floorDivide), (.symbol "%", .remainder)]

/-- The operators from the weakest to the strongest binding. -/
def levels : List (List (Token × Operator)) := [comparisons, sums, joins, products]

mutual

/-- Operands joined by `or`. -/
def disjunction : Nat → Reader Expr
  | 0 => failure
  | fuel + 1 => do
    let e ← conjunction fuel
    disjuncts fuel e

def disjuncts : Nat → Expr → Reader Expr
  | 0, _ => failure
  | fuel + 1, e => do
    if ← accept (.word "or") then disjuncts fuel (.or e (← conjunction fuel)) else return e

/-- Operands joined by `and`. -/
def conjunction : Nat → Reader Expr
  | 0 => failure
  | fuel + 1 => do
    let e ← negation fuel
    conjuncts fuel e

def conjuncts : Nat → Expr → Reader Expr
  | 0, _ => failure
  | fuel + 1, e => do
    if ← accept (.word "and") then conjuncts fuel (.and e (← negation fuel)) else return e

def negation : Nat → Reader Expr
  | 0 => failure
  | fuel + 1 => do
    if ← accept (.word "not") then return .not (← negation fuel) else chain fuel levels

/-- Operands joined by the operators of the first of `tables`, and stronger ones inside of them. -/
def chain : Nat → (tables : List (List (Token × Operator))) → Reader Expr
  | 0, _ => failure
  | fuel + 1, [] => signed fuel
  | fuel + 1, table :: tables => do
    let e ← chain fuel tables
    chained fuel table tables e

def chained : Nat → (table : List (Token × Operator)) → (tables : List (List (Token × Operator))) → Expr →
    Reader Expr
  | 0, _, _, _ => failure
  | fuel + 1, table, tables, e => do
    match ← operator? table with
    | some op => chained fuel table tables (.binary op e (← chain fuel tables))
    | none =>
      match table.lookup (.word "in"), ← get with
      | some op, .word "not" :: .word "in" :: ts =>
        set ts
        chained fuel table tables (.not (.binary op e (← chain fuel tables)))
      | _, _ => return e

/-- A value, maybe with a minus, with what is done to it. -/
def signed : Nat → Reader Expr
  | 0 => failure
  | fuel + 1 => do
    if ← accept (.symbol "-") then
      let e ← primary fuel
      trailers fuel (.negate e)
    else
      let e ← primary fuel
      trailers fuel e

/-- Attributes, subscripts, filters and tests. -/
def trailers : Nat → Expr → Reader Expr
  | 0, _ => failure
  | fuel + 1, e => do
    if ← accept (.symbol ".") then trailers fuel (.member e (← word))
    else if ← accept (.symbol "[") then
      let index ← disjunction fuel
      expect (.symbol "]")
      trailers fuel (.subscript e index)
    else filters fuel e

def filters : Nat → Expr → Reader Expr
  | 0, _ => failure
  | fuel + 1, e => do
    if ← accept (.symbol "|") then
      let name ← word
      let arguments ← if ← accept (.symbol "(") then list fuel ")" else pure []
      filters fuel (.filter name e arguments)
    else if ← accept (.word "is") then
      let negated ← accept (.word "not")
      let e := Expr.test (← word) e
      filters fuel (if negated then .not e else e)
    else return e

/-- Expressions between commas, up to the closing symbol. -/
def list : Nat → (closing : String) → Reader (List Expr)
  | 0, _ => failure
  | fuel + 1, closing => do
    if ← accept (.symbol closing) then return []
    let e ← disjunction fuel
    if ← accept (.symbol ",") then return e :: (← list fuel closing)
    expect (.symbol closing)
    return [e]

def primary : Nat → Reader Expr
  | 0 => failure
  | fuel + 1 => do
    match ← get with
    | .word w :: ts =>
      set ts
      if w ∈ ["true", "True"] then return .const (.bool true)
      else if w ∈ ["false", "False"] then return .const (.bool false)
      else if w ∈ ["none", "None"] then return .const .null
      else return .name w
    | .str s :: ts => set ts; strings fuel s
    | .int n :: ts => set ts; return .const (.int n)
    | .symbol "(" :: ts =>
      set ts
      let e ← disjunction fuel
      expect (.symbol ")")
      return e
    | .symbol "[" :: ts => set ts; return .list (← list fuel "]")
    | _ => failure

/-- Strings that follow each other are one. -/
def strings : Nat → String → Reader Expr
  | 0, _ => failure
  | fuel + 1, s => do
    match ← get with
    | .str t :: ts => set ts; strings fuel (s ++ t)
    | _ => return .const (.str s)

end

/-! ### Nodes -/

/-- Names that cannot be assigned to. -/
def reserved : List String := ["true", "True", "false", "False", "none", "None", "loop", "self"]

def target : Reader String := do
  let w ← word
  if w ∈ reserved then failure else return w

def targets : Nat → Reader (List String)
  | 0 => failure
  | fuel + 1 => do
    let w ← target
    if ← accept (.symbol ",") then return w :: (← targets fuel) else return [w]

mutual

/-- Nodes up to a tag that starts with one of `stops`, and that word; or up to the end. -/
def nodes : Nat → (stops : List String) → Reader (List Node × Option String)
  | 0, _ => failure
  | fuel + 1, stops => do
    let followedBy (n : Node) : Reader (List Node × Option String) := do
      let (ns, stop) ← nodes fuel stops
      return (n :: ns, stop)
    match ← get with
    | [] => return ([], none)
    | .text s :: ts => set ts; followedBy (.text s)
    | .printStart :: ts =>
      set ts
      let e ← disjunction fuel
      expect .printEnd
      followedBy (.print e)
    | .tagStart :: .word w :: ts =>
      set ts
      if w ∈ stops then return ([], some w)
      followedBy (← statement fuel w)
    | _ => failure

/-- A statement behind its first word. -/
def statement : Nat → String → Reader Node
  | 0, _ => failure
  | fuel + 1, w => do
    if w = "if" then branch fuel
    else if w = "for" then
      let ts ← targets fuel
      expect (.word "in")
      let items ← disjunction fuel
      expect .tagEnd
      let (body, stop) ← nodes fuel ["else", "endfor"]
      let otherwise ← if stop = some "else" then
          expect .tagEnd
          body? fuel "endfor"
        else if stop = some "endfor" then pure []
        else failure
      expect .tagEnd
      return .loop ts items body otherwise
    else if w = "set" then
      let ts ← targets fuel
      if ← accept (.symbol "=") then
        let e ← disjunction fuel
        expect .tagEnd
        return .assign ts e
      let [t] := ts | failure
      expect .tagEnd
      let body ← body? fuel "endset"
      expect .tagEnd
      return .capture t body
    else failure

/-- Nodes up to the tag that starts with `stop`. -/
def body? : Nat → (stop : String) → Reader (List Node)
  | 0, _ => failure
  | fuel + 1, stop => do
    let (ns, found) ← nodes fuel [stop]
    if found = some stop then return ns else failure

/-- A condition with its body and what follows up to the end of the statement. -/
def branch : Nat → Reader Node
  | 0 => failure
  | fuel + 1 => do
    let condition ← disjunction fuel
    expect .tagEnd
    let (body, stop) ← nodes fuel ["elif", "else", "endif"]
    if stop = some "elif" then return .branch condition body [← branch fuel]
    let otherwise ← if stop = some "else" then
        expect .tagEnd
        body? fuel "endif"
      else if stop = some "endif" then pure []
      else failure
    expect .tagEnd
    return .branch condition body otherwise

end

end Reader

/-- The nodes of a template, unless its syntax is wrong. A token is reached by a dozen calls at most. -/
def Node.ofTokens? (ts : List Token) : Option (List Node) := do
  let ((ns, _), rest) ← (Reader.nodes (16 * ts.length + 16) []).run ts
  if rest = [] then return ns else none

end PlatformOperator.Template
