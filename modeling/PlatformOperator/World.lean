import PlatformOperator.Cluster

/-! The world of a run: the cluster, what interferes with calls on it, the calls made so far, the clock,
    and what the operator remembers between runs. -/

namespace PlatformOperator

/-- A call on the API. -/
inductive Call where
  | discover
  | rules («namespace» : String)
  | resolve (gvk : Gvk)
  | list (resource : ApiResource) («namespace» selector : Option String)
  | get (resource : ApiResource) («namespace» : Option String) (name : String)
  | apply (resource : ApiResource) («namespace» : Option String) (name : String)
  | mergePatch (resource : ApiResource) («namespace» : Option String) (name : String) (patch : Json)
  | patchStatus (resource : ApiResource) («namespace» : Option String) (name : String) (status : Json)
  | delete (resource : ApiResource) («namespace» : Option String) (name : String) (policy : Propagation)
  deriving DecidableEq, Repr

namespace Call

def verb : Call → String
  | .discover => "discover"
  | .rules _ => "rules"
  | .resolve _ => "resolve"
  | .list .. => "list"
  | .get .. => "get"
  | .apply .. => "apply"
  | .mergePatch .. => "merge_patch"
  | .patchStatus .. => "patch_status"
  | .delete .. => "delete"

/-- The kind a call is about, empty where it is about no type. -/
def kind : Call → String
  | .discover | .rules _ => ""
  | .resolve g => g.kind
  | .list r _ _ | .get r _ _ | .apply r _ _ | .mergePatch r _ _ _ | .patchStatus r _ _ _ | .delete r _ _ _ => r.kind

/-- The name a call is about: of an object, or of the namespace whose rules are asked for. -/
def name : Call → String
  | .discover | .resolve _ | .list .. => ""
  | .rules ns => ns
  | .get _ _ n | .apply _ _ n | .mergePatch _ _ n _ | .patchStatus _ _ n _ | .delete _ _ n _ => n

/-- The call as a record: its verb, then its arguments. -/
def toJson (c : Call) : Json :=
  let place (r : ApiResource) («namespace» : Option String) : List Json :=
    [.str r.text, («namespace».map .str).getD .null]
  .arr (.str c.verb :: match c with
    | .discover => []
    | .rules ns => [.str ns]
    | .resolve g => [.str (g.group ++ "/" ++ g.version ++ " " ++ g.kind)]
    | .list r ns s => place r ns ++ [(s.map .str).getD .null]
    | .get r ns n | .apply r ns n => place r ns ++ [.str n]
    | .mergePatch r ns n p => place r ns ++ [.str n, p]
    | .patchStatus r ns n s => place r ns ++ [.str n, s]
    | .delete r ns n p => place r ns ++ [.str n, .str p.text])

end Call

/-- Which calls: those of a verb and, where given, of a kind and a name. -/
structure CallPattern where
  verb : String
  kind : Option String
  name : Option String
  deriving DecidableEq, Repr

def CallPattern.accepts (p : CallPattern) (c : Call) : Bool :=
  p.verb == c.verb && p.kind.all (· == c.kind) && p.name.all (· == c.name)

/-- Lets calls of a pattern fail, after the first `skip` of them and at most `times` times. -/
structure Fault where
  pattern : CallPattern
  skip : Nat
  times : Option Nat
  /-- The failure of a call, given its kind and name. -/
  error : (kind name : String) → ApiError

/-- Stores an object right before the call of a pattern that is `ahead` calls away is served. -/
structure Arrival where
  pattern : CallPattern
  ahead : Nat
  object : Object

/-- An engine of the collector: shared under a name, or owned by one collector. -/
inductive EngineId where
  | shared (name : String)
  | own (collector : String)
  deriving DecidableEq, Repr, Inhabited

/-- How many collections a collector ran, and how many objects it deleted. -/
structure Tally where
  cycles : Nat
  deleted : Nat
  deriving DecidableEq, Repr, Inhabited

/-- What the operator remembers between runs. -/
structure Memory where
  catalogs : List (EngineId × List CatalogType) := []
  tallies : Dict Tally := []
  /-- The failures in a row, by reconciler and instance. -/
  failures : Dict (Dict Nat) := []

/-- What runs note down: an action that ran, or a note of a feature's hook. -/
inductive JournalEntry where
  | action (name : String)
  | hook (note feature «namespace» : String)
  deriving DecidableEq, Repr

structure World where
  cluster : Cluster := .empty
  faults : List Fault := []
  arrivals : List Arrival := []
  /-- What discovery answers, if not what the cluster serves. -/
  discovery : Option (List DiscoveryList) := none
  /-- Kinds that come back from an apply without UID. -/
  hiddenUids : List String := []
  clock : Clock := ⟨0⟩
  /-- The time spent waiting, in milliseconds. -/
  elapsed : Nat := 0
  calls : List Call := []
  journal : List JournalEntry := []
  memory : Memory := {}

/-- A computation in the world that can fail; what it did before stays done. -/
abbrev Op (ε α : Type) := ExceptT ε (StateM World) α

namespace World

/-- Stores the objects that arrive before the call. -/
def receive (call : Call) : List Arrival → Cluster → List Arrival × Cluster
  | [], c => ([], c)
  | a :: as, c =>
    if a.pattern.accepts call then
      if a.ahead = 0 then receive call as (c.insert a.object)
      else
        let (as, c) := receive call as c
        ({ a with ahead := a.ahead - 1 } :: as, c)
    else
      let (as, c) := receive call as c
      (a :: as, c)

/-- The first fault that is due for the call. Faults before it count the call, those after it do not. -/
def strike (call : Call) : List Fault → Option ApiError × List Fault
  | [] => (none, [])
  | f :: fs =>
    if f.pattern.accepts call then
      if f.skip = 0 ∧ f.times ≠ some 0 then
        (some (f.error call.kind call.name), { f with times := f.times.map (· - 1) } :: fs)
      else
        let (e, fs) := strike call fs
        (e, { f with skip := f.skip - 1 } :: fs)
    else
      let (e, fs) := strike call fs
      (e, f :: fs)

/-- Makes a call: it is recorded, objects arrive, and a fault may end it. -/
def begin (call : Call) : Op ApiError Unit := fun w =>
  let (arrivals, cluster) := receive call w.arrivals w.cluster
  let (error, faults) := strike call w.faults
  (match error with
    | some e => .error e
    | none => .ok (), { w with arrivals, cluster, faults, calls := w.calls ++ [call] })

/-- Reads the cluster. -/
def ask {α : Type} (f : Cluster → Except ApiError α) : Op ApiError α := fun w => (f w.cluster, w)

/-- Changes the cluster at the time of a reading of the clock, or fails after the reading. -/
def change {α : Type} (f : Timestamp → Cluster → Except ApiError (α × Cluster)) : Op ApiError α := fun w =>
  match f w.clock.next w.cluster with
  | .ok (a, cluster) => (.ok a, { w with cluster, clock := w.clock.tick })
  | .error e => (.error e, { w with clock := w.clock.tick })

/-- Runs a computation that reads the clock. -/
def timed {α : Type} (f : StateM Clock α) : StateM World α := fun w =>
  let (a, clock) := f w.clock
  (a, { w with clock })

/-! ### Calls -/

/-- The types of every group's preferred version. -/
def discover : Op ApiError (List DiscoveryList) := do
  begin .discover
  return (← get).discovery.getD (← get).cluster.served

/-- The rules granted to the operator in a namespace. -/
def accessRules («namespace» : String) : Op ApiError (List AccessRule) := do
  begin (.rules «namespace»)
  return (← get).cluster.rules

def resolve (g : Gvk) : Op ApiError (ApiResource × Scope) := do
  begin (.resolve g)
  ask (Cluster.resolve g)

def list (r : ApiResource) («namespace» selector : Option String) : Op ApiError (List Object) := do
  begin (.list r «namespace» selector)
  ask (Cluster.list r «namespace» selector)

def getObject (r : ApiResource) («namespace» : Option String) (name : String) : Op ApiError (Option Object) := do
  begin (.get r «namespace» name)
  ask fun c => .ok (c.get r «namespace» name)

/-- The object as an apply returns it. -/
def returned (hidden : List String) (r : ApiResource) (o : Object) : Object :=
  if r.kind ∈ hidden then o.mapMeta fun m => { m with uid := none } else o

def applyObject (r : ApiResource) (o : Object) : Op ApiError Object := do
  begin (.apply r o.metadata.namespace o.name)
  let o ← change fun _ c => c.apply r o
  return returned (← get).hiddenUids r o

def mergePatch (r : ApiResource) («namespace» : Option String) (name : String) (patch : Json) :
    Op ApiError Object := do
  begin (.mergePatch r «namespace» name patch)
  change fun now c => c.mergePatch now r «namespace» name patch

def patchStatus (r : ApiResource) («namespace» : Option String) (name : String) (status : Json) : Op ApiError Unit := do
  begin (.patchStatus r «namespace» name status)
  change fun _ c => (c.patchStatus r «namespace» name status).map ((), ·)

def delete (r : ApiResource) («namespace» : Option String) (name : String) (policy : Propagation) :
    Op ApiError Unit := do
  begin (.delete r «namespace» name policy)
  change fun now c => (c.delete now r «namespace» name policy).map ((), ·)

end World

/-- Notes something down. -/
def World.record (e : JournalEntry) (w : World) : World := { w with journal := w.journal ++ [e] }

/-- Gives the failures of a computation another form. -/
def Op.mapError {ε ε' α : Type} (f : ε → ε') (x : Op ε α) : Op ε' α := fun w =>
  let (r, w) := x w
  (r.mapError f, w)

/-- Runs a computation that reads the clock. -/
def Op.timed {ε α : Type} (f : StateM Clock α) : Op ε α := fun w =>
  let (a, w) := World.timed f w
  (.ok a, w)

/-- The result of a computation as a value: its failure no longer ends what follows. -/
def Op.outcome {ε ε' α : Type} (x : Op ε α) : Op ε' (Except ε α) := fun w =>
  let (r, w) := x w
  (.ok r, w)

end PlatformOperator
