import PlatformOperator.Cause
import PlatformOperator.Remote

/-! Events: a failed reconciliation is reported as a warning on the instance it is about. -/

namespace PlatformOperator

/-- A reference to an object that an event is about. -/
structure ObjectReference where
  apiVersion : String
  kind : String
  name : String
  «namespace» : Option String
  deriving DecidableEq, Repr, Inhabited

def ObjectReference.toJson (o : ObjectReference) : Json :=
  .ofPresent [("apiVersion", some (.str o.apiVersion)), ("kind", some (.str o.kind)), ("name", some (.str o.name)),
    ("namespace", o.namespace.map .str)]

/-- A failed reconciliation, as it is reported. -/
structure ReconcileFailure where
  category : String
  cause : Cause
  /-- The reconciled instance. -/
  regarding : ObjectReference
  /-- The object that the failure is about, if it is another one. -/
  related : Option ObjectReference

/-- How a reconciliation ended for its controller. -/
inductive ReconcileOutcome where
  | reconciled
  | instanceNotFound
  | failed (failure : ReconcileFailure)

namespace Event

/-- The largest number of bytes in a note. -/
def noteLimit : Nat := 1024

def ellipsis : Char := '…'

/-- The longest part of a text, from its front, of at most `budget` bytes. -/
def frontWithin : Nat → List Char → List Char
  | _, [] => []
  | budget, c :: cs => if c.utf8Size ≤ budget then c :: frontWithin (budget - c.utf8Size) cs else []

/-- The text within `limit` bytes. One that is cut ends with an ellipsis, if there is room for it. -/
def truncated (limit : Nat) (s : String) : String :=
  if s.utf8ByteSize ≤ limit then s
  else
    let front := frontWithin (limit - ellipsis.utf8Size) s.toList
    String.ofList (if ellipsis.utf8Size ≤ limit then front ++ [ellipsis] else front)

/-- The event that reports a failure for a controller. -/
def ofFailure (controller : String) (f : ReconcileFailure) : Json :=
  .ofPresent [("apiVersion", some (.str "events.k8s.io/v1")), ("kind", some (.str "Event")),
    ("metadata", some (.ofPresent [("namespace", f.regarding.namespace.map .str)])),
    ("type", some (.str "Warning")), ("action", some (.str "Reconcile")), ("reason", some (.str f.category)),
    ("note", some (.str (truncated noteLimit f.cause.fullMessage))),
    ("reportingController", some (.str controller)), ("reportingInstance", some (.str controller)),
    ("regarding", some f.regarding.toJson), ("related", f.related.map ObjectReference.toJson)]

/-- Where the events of an object are kept: in its namespace, those of a cluster object in the default one. -/
def path (regarding : ObjectReference) : String :=
  "/apis/events.k8s.io/v1/namespaces/" ++ regarding.namespace.getD "default" ++ "/events"

end Event

/-- Reports how a reconciliation ended. Only failures become events, and an event that cannot be sent is
    given up. -/
def Remote.report {σ : Type} (remote : Remote σ) (controller : String) : ReconcileOutcome → StateM σ Unit
  | .reconciled | .instanceNotFound => pure ()
  | .failed f => do
    let event := Event.ofFailure controller f
    let _ ← (remote.send .post (Event.path f.regarding) some (some (Remote.jsonContent, event))).run

end PlatformOperator
