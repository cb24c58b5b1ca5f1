import PlatformOperator.Condition.Manager
import PlatformOperator.Digest.Sha256
import PlatformOperator.Instance
import PlatformOperator.Release
import PlatformOperator.World

/-! Reconciliation requests: what the actions of one reconciliation share, from the instance and the
    inputs of the render to the rendered objects and the conditions. -/

namespace PlatformOperator

/-- Where a renderer finds manifests. -/
structure ManifestSource where
  path : String
  contextDir : String
  sourcePath : String
  deriving DecidableEq, Repr, Inhabited

namespace ManifestSource

/-- Goes on from a path to a segment: an absolute segment starts anew, any other follows a slash. -/
def push (path segment : List Char) : List Char :=
  if segment.head? = some '/' then segment
  else if path = [] ∨ path.getLast? = some '/' then path ++ segment
  else path ++ '/' :: segment

/-- The path of all segments that are not empty. -/
def text (m : ManifestSource) : String :=
  String.ofList ((([m.path, m.contextDir, m.sourcePath].map String.toList).filter (· != [])).foldl push [])

end ManifestSource

/-- A template for a renderer, with marks for all objects it renders. -/
structure TemplateSource where
  path : String
  labels : Dict String
  annotations : Dict String
  deriving DecidableEq, Repr, Inhabited

structure Request where
  subject : Instance
  config : ClusterConfig
  release : Release
  conditions : Manager
  manifests : List ManifestSource := []
  templates : List TemplateSource := []
  /-- The rendered objects, in the order they are applied. -/
  resources : List Object := []
  /-- Set once `resources` hold a full render: nothing is collected before. -/
  generated : Bool := false

namespace Request

/-- The request for an instance, with the conditions it has so far. -/
def start (config : ClusterConfig) (release : Release) (subject : Instance) (dependents : List String) :
    StateM Clock Request := do
  return { subject, config, release, conditions := ← Manager.start subject.conditions Condition.ready dependents }

/-- Visits the resources in order and replaces each by what the visit makes of it. The visit of a
    resource ends the walk by `some` outcome: the resources after it stay as they are. -/
def visit {σ ε : Type} (f : σ → Object → σ × Object × Option (Except ε Unit)) :
    σ → List Object → σ × List Object × Except ε Unit
  | s, [] => (s, [], .ok ())
  | s, o :: os =>
    match f s o with
    | (s, o, some outcome) => (s, o :: os, outcome)
    | (s, o, none) =>
      let (s, os, outcome) := visit f s os
      (s, o :: os, outcome)

/-- Removes the resources that `p` accepts, and counts them. -/
def removeResources (p : Object → Bool) (r : Request) : Nat × Request :=
  let kept := r.resources.filter (!p ·)
  (r.resources.length - kept.length, { r with resources := kept })

/-- The little-endian bytes of a 64-bit integer in two's complement. -/
def littleEndian (n : Int) : List UInt8 :=
  (List.range 8).map fun i => UInt8.ofNat ((n % (wordSize 64 : Int)).toNat >>> (8 * i))

/-- The bytes that stand for the inputs of the render. -/
def renderBytes (r : Request) : List UInt8 :=
  let bytes (s : String) : List UInt8 := s.toUTF8.toList
  bytes (r.subject.metadata.uid.getD "") ++ littleEndian r.subject.generation ++ bytes r.release.platform.text ++
    bytes r.release.version.text ++ r.manifests.flatMap (bytes ·.text) ++ r.templates.flatMap (bytes ·.path)

/-- A digest of the inputs of the render. -/
def hash (r : Request) : String := Sha256.hexText (Sha256.digest r.renderBytes)

end Request

/-- A reconciliation under way. -/
structure Run where
  world : World
  request : Request

/-- A computation in a reconciliation that can fail; what it did before stays done. -/
abbrev RunM (α : Type) := ExceptT ActionError (StateM Run) α

namespace RunM

/-- Runs a computation of the world alone. -/
def ofWorld {α : Type} (x : StateM World α) : RunM α := fun run =>
  let (a, world) := x run.world
  (.ok a, { run with world })

/-- Runs a computation of the world that can fail. -/
def ofOp {ε α : Type} (f : ε → ActionError) (x : Op ε α) : RunM α := fun run =>
  let (r, world) := x run.world
  (r.mapError f, { run with world })

def request : RunM Request := do return (← get).request

def modifyRequest (f : Request → Request) : RunM Unit := modify fun run => { run with request := f run.request }

/-- Changes the conditions by the clock of the world. -/
def modifyConditions (f : Manager → StateM Clock Manager) : RunM Unit := do
  let m ← ofWorld (World.timed (f (← request).conditions))
  modifyRequest fun r => { r with conditions := m }

end RunM
end PlatformOperator
