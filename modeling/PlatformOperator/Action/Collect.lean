import PlatformOperator.Action
import PlatformOperator.Collector
import PlatformOperator.Collector.Staleness

/-! Garbage collection as an action: what earlier renders of the instance left behind is deleted once the
    request holds a full render. -/

namespace PlatformOperator

/-- How a collection fails. -/
inductive CollectionError where
  | refreshEngine (error : CollectError)
  | runEngine (error : CollectError)
  deriving Repr, Inhabited

def CollectionError.cause : CollectionError → Cause
  | .refreshEngine e => .context "failed to refresh the garbage collector" e.cause
  | .runEngine e => .context "failed to run the garbage collector" e.cause

/-- A collector of garbage. Unless told otherwise it collects stale objects that an instance of the
    reconciled type owns, and no definitions of types and no leases. -/
structure GarbageCollector where
  /-- The name its counters are kept under. -/
  name : String
  engine : Engine
  /-- Where access rules are asked for, if not in the applications namespace. -/
  rulesNamespace : Option String := none
  /-- Labels to select by, instead of the kind that objects are part of. -/
  labels : Dict String := []
  unremovables : List Gvk :=
    [⟨"apiextensions.k8s.io", "v1", "CustomResourceDefinition"⟩, ⟨"coordination.k8s.io", "v1", "Lease"⟩]
  onlyOwned : Bool := true
  propagation : Option Propagation := none
  acceptsType : CatalogType → Except Cause Bool := fun _ => .ok true
  acceptsObject : CurrentState → Object → Except Cause Bool := fun s o =>
    (s.isStale o).mapError Failure.cause

namespace GarbageCollector

/-- Whether an owner of the object is of this group and kind. -/
def isOwnedByType (o : Object) (group kind : String) : Bool :=
  o.metadata.owners.any fun r =>
    r.kind == kind && ((Text.splitOnce? '/' r.apiVersion).map (·.1)).getD "" == group

def selector (g : GarbageCollector) (subject : Instance) : String :=
  if g.labels = [] then Marks.partOf ++ "=" ++ subject.label
  else String.intercalate "," (g.labels.map fun p => p.1 ++ "=" ++ p.2)

/-- What a pass for the current state of an instance lists and deletes. -/
def options (g : GarbageCollector) (subject : Instance) (current : CurrentState) : PassOptions where
  selector := some (g.selector subject)
  propagation := g.propagation
  acceptsType t :=
    if g.unremovables.any fun u => u.group == t.group && u.kind == t.kind then .ok false else g.acceptsType t
  acceptsObject o :=
    if o.metadata.isUnmanaged then .ok false
    else if g.onlyOwned && !isOwnedByType o subject.resource.group subject.resource.kind then .ok false
    else g.acceptsObject current o

/-- The counters so far. -/
def tally (g : GarbageCollector) (w : World) : Tally := (w.memory.tallies.get? g.name).getD ⟨0, 0⟩

def count (g : GarbageCollector) (f : Tally → Tally) (w : World) : World :=
  { w with memory := { w.memory with tallies := w.memory.tallies.insert g.name (f (g.tally w)) } }

/-- The stamp of the current render of a request. -/
def currentState (r : Request) : CurrentState := ⟨r.release, r.subject.generation, r.subject.metadata.uid⟩

/-- A refresh of the engine and a pass by the new catalog. -/
def collect (g : GarbageCollector) (r : Request) : Op CollectionError Unit := do
  modify (g.count fun t => { t with cycles := t.cycles + 1 })
  Op.mapError .refreshEngine (g.engine.refresh (g.rulesNamespace.getD r.config.applicationsNamespace))
  let deleted ← Op.mapError .runEngine (g.engine.run (g.options r.subject (currentState r)))
  modify (g.count fun t => { t with deleted := t.deleted + deleted })

end GarbageCollector

namespace Action

/-- Collects garbage, but never against a partial render. -/
def collect (g : GarbageCollector) : Action where
  name := "gc"
  run := do
    let r ← RunM.request
    if r.generated then RunM.ofOp (fun e : CollectionError => .retryable e.cause) (g.collect r)

end Action
end PlatformOperator
