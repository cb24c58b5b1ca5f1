import PlatformOperator.Template.Value

/-! Templates: texts with tags that print values, branch, loop and assign. The syntax of the whole template
    is checked before any of it runs. -/

namespace PlatformOperator.Template

/-- A rendering under way: the variables, the innermost scope first, and what is printed so far. -/
structure State where
  scopes : List (Dict Value)
  output : String

/-- The value of a variable in the innermost scope that has it. -/
def lookup (name : String) : List (Dict Value) → Value
  | [] => none
  | scope :: scopes => (scope.get? name).getD (lookup name scopes)

/-! ### Expressions -/

/-- Whether a value holds as a condition. -/
def condition : Value → Except TemplateError Bool
  | none => .error .undefinedValue
  | some j => .ok (isTrue j)

mutual

/-- The value of an expression. -/
def Expr.eval (scopes : List (Dict Value)) : Expr → Except TemplateError Value
  | .const j => .ok (some j)
  | .name n => .ok (lookup n scopes)
  | .member e n => do memberOf (← e.eval scopes) n
  | .subscript e i => do partOf (← e.eval scopes) (← i.eval scopes)
  | .list items => do
    let values ← evalAll scopes items
    return some (.arr (values.map (·.getD .null)))
  | .not e => do return some (.bool (!(← condition (← e.eval scopes))))
  | .negate e => do negated (← e.eval scopes)
  | .and a b => do
    let v ← a.eval scopes
    if ← condition v then b.eval scopes else return v
  | .or a b => do
    let v ← a.eval scopes
    if ← condition v then return v else b.eval scopes
  | .binary op a b => do op.run (← a.eval scopes) (← b.eval scopes)
  | .filter n e arguments => do
    let v ← e.eval scopes
    applyFilter n v (← evalAll scopes arguments)
  | .test n e => do return some (.bool (← holds n (← e.eval scopes)))

def evalAll (scopes : List (Dict Value)) : List Expr → Except TemplateError (List Value)
  | [] => .ok []
  | e :: es => do return (← e.eval scopes) :: (← evalAll scopes es)

end

/-! ### Nodes -/

/-- Sets a variable in the innermost scope. -/
def assign (name : String) (v : Value) : List (Dict Value) → List (Dict Value)
  | [] => [[(name, v)]]
  | scope :: scopes => scope.insert name v :: scopes

/-- Sets one variable to a value, or several to the items of a list. -/
def assignAll (targets : List String) (v : Value) (scopes : List (Dict Value)) :
    Except TemplateError (List (Dict Value)) :=
  match targets, v with
  | [t], v => .ok (assign t v scopes)
  | ts, some (.arr items) =>
    if ts.length = items.length then .ok ((ts.zip items).foldl (fun s p => assign p.1 (some p.2) s) scopes)
    else .error .invalidOperation
  | _, none => .error .undefinedValue
  | _, _ => .error .invalidOperation

/-- What a body can ask about the loop it is in: where it is of how many. -/
def loopInfo (index count depth : Nat) : Json :=
  let int (n : Nat) : Json := .int n
  .ofPairs [("index", int (index + 1)), ("index0", int index), ("revindex", int (count - index)),
    ("revindex0", int (count - index - 1)), ("first", .bool (index = 0)), ("last", .bool (index + 1 = count)),
    ("length", int count), ("depth", int depth), ("depth0", int (depth - 1))]

mutual

/-- Runs a node, inside of `depth` loops. -/
def Node.run (depth : Nat) : Node → State → Except TemplateError State
  | .text s, st => .ok { st with output := st.output ++ s }
  | .print e, st => do
    match ← e.eval st.scopes with
    | none => throw .undefinedValue
    | v => return { st with output := st.output ++ Template.text v }
  | .branch c body otherwise, st => do
    if ← condition (← c.eval st.scopes) then runAll depth body st else runAll depth otherwise st
  | .loop targets e body otherwise, st => do
    let items ← itemsOf (← e.eval st.scopes)
    if items = [] then return ← runAll depth otherwise st
    let st ← items.zipIdx.foldlM (fun (st : State) (p : Json × Nat) => do
      let scopes := assign "loop" (some (loopInfo p.2 items.length (depth + 1))) st.scopes
      runAll (depth + 1) body { st with scopes := ← assignAll targets (some p.1) scopes })
      { st with scopes := [] :: st.scopes }
    return { st with scopes := st.scopes.drop 1 }
  | .assign targets e, st => do
    return { st with scopes := ← assignAll targets (← e.eval st.scopes) st.scopes }
  | .capture t body, st => do
    let inner ← runAll depth body { st with output := "" }
    return { scopes := assign t (some (.str inner.output)) inner.scopes, output := st.output }

def runAll (depth : Nat) : List Node → State → Except TemplateError State
  | [], st => .ok st
  | n :: ns, st => do runAll depth ns (← n.run depth st)

end

/-- Renders a template with the given variables. -/
def render (source : String) (data : Dict Json) : Except TemplateError String := do
  let some nodes := (tokens? source).bind Node.ofTokens? | throw .syntaxError
  let st ← runAll 0 nodes { scopes := [data.map fun p => (p.1, some p.2)], output := "" }
  return st.output

end PlatformOperator.Template
