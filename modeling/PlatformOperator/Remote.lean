import PlatformOperator.Catalog
import PlatformOperator.Http
import PlatformOperator.Json.Text
import PlatformOperator.Object

/-! The API of a cluster over HTTP: every call becomes requests, and their refusals become failures of
    the call. -/

namespace PlatformOperator

/-- What stands in reports for the text of a failure below the API. -/
def belowApi : String := "<kube>"

/-- A refusal: its code, and why. -/
structure Refused where
  code : Nat
  reason : String
  message : String
  deriving DecidableEq, Repr, Inhabited

namespace Refused
open Json

/-- Reads the status object of a refusal, all of whose fields may be missing. -/
def ofJson? (j : Json) : Option Refused := do
  let fields ← j.fields? ["status", "code", "message", "reason"]
  let _ ← optional fields "status" fun s => s.constant?.filter fun s => s == "Success" || s == "Failure"
  let code ← defaulted fields "code" 0 fun
    | .int n => if 0 ≤ n ∧ n < wordSize 16 then some n.toNat else none
    | _ => none
  return { code, reason := ← defaulted fields "reason" "" str?, message := ← defaulted fields "message" "" str? }

/-- The refusal in a response. A body that is no status object counts as its message. -/
def ofResponse (status : Nat) (body : String) : Refused :=
  ((Json.ofText? body).bind ofJson?).getD ⟨status, "Failed to parse error data", Text.quoted body⟩

/-- The reasons that decide over a code. -/
def knownReasons : List String :=
  ["Unauthorized", "Forbidden", "NotFound", "AlreadyExists", "Conflict", "Gone", "Invalid", "ServerTimeout", "Timeout",
    "TooManyRequests", "BadRequest", "MethodNotAllowed", "NotAcceptable", "RequestEntityTooLarge",
    "UnsupportedMediaType", "InternalError", "Expired", "ServiceUnavailable", "StoreReadError"]

/-- Whether the refusal says that the object does not exist. The code counts if the reason is none of
    the known ones. -/
def isMissing (r : Refused) : Bool := r.reason == "NotFound" || (!knownReasons.contains r.reason && r.code == 404)

/-- The failure of a call about an object. -/
def toError (verb kind name : String) (r : Refused) : ApiError :=
  if r.code = 404 then .notFound kind name
  else if r.code = 403 then .forbidden kind r.message
  else if r.code = 405 then .methodNotAllowed kind
  else if r.reason = "AlreadyExists" then .alreadyExists kind name
  else if r.code = 409 then .conflict kind name r.message
  else .request verb kind name belowApi

end Refused

/-- How a request fails. -/
inductive RequestFailure where
  /-- The server refused it. -/
  | refused (refusal : Refused)
  /-- It could not be sent, or what came back is no answer. -/
  | lost
  deriving DecidableEq, Repr, Inhabited

def RequestFailure.toError (verb kind name : String) : RequestFailure → ApiError
  | .refused r => r.toError verb kind name
  | .lost => .request verb kind name belowApi

/-- A cluster behind a connection with states `σ`. -/
structure Remote (σ : Type) where
  /-- The name that applied fields are owned by. -/
  fieldManager : String
  exchange : HttpRequest → StateM σ HttpResponse

namespace Remote
variable {σ : Type}

/-- A computation over a connection that can fail. -/
abbrev Op (σ ε α : Type) := ExceptT ε (StateM σ) α

/-- The result of a request as a value. -/
def outcome {ε ε' α : Type} (x : Op σ ε α) : Op σ ε' (Except ε α) := fun s =>
  let (r, s) := x s
  (.ok r, s)

/-- Gives the failures of a computation another form. -/
def mapError {ε ε' α : Type} (f : ε → ε') (x : Op σ ε α) : Op σ ε' α := fun s =>
  let (r, s) := x s
  (r.mapError f, s)

/-! ### Requests -/

/-- Sends a request and reads the answer. Nothing is sent if the target is none. -/
def send {α : Type} (r : Remote σ) (method : HttpMethod) (target : String) (read : Json → Option α)
    (content : Option (String × Json) := none) : Op σ RequestFailure α := do
  let some target := HttpTarget.ofText? target | throw .lost
  match ← r.exchange { method, target, contentType := content.map (·.1), body := content.map (·.2) } with
  | .broken => throw .lost
  | .answered status body =>
    if 400 ≤ status ∧ status < 600 then throw (.refused (.ofResponse status body))
    match (Json.ofText? body).bind read with
    | some a => return a
    | none => throw .lost

/-- The path of the types of a group and version. -/
def versionPath (group version : String) : String :=
  if group = "" then "/api/" ++ version else "/apis/" ++ group ++ "/" ++ version

/-- The path of the objects of a type, in one namespace or in all. -/
def collectionPath (r : ApiResource) («namespace» : Option String) : String :=
  versionPath r.group r.version ++ (match «namespace» with
    | some ns => "/namespaces/" ++ ns
    | none => "") ++ "/" ++ r.plural

/-- Sends a request about one object. An object without name is asked for by no request. -/
def sendFor {α : Type} (remote : Remote σ) (method : HttpMethod) (r : ApiResource) («namespace» : Option String)
    (name : String) (part : String) (read : Json → Option α) (content : Option (String × Json) := none) :
    Op σ RequestFailure α :=
  if name = "" then throw .lost
  else remote.send method (collectionPath r «namespace» ++ "/" ++ name ++ part) read content

def jsonContent : String := "application/json"
def applyContent : String := "application/apply-patch+yaml"
def mergeContent : String := "application/merge-patch+json"

/-! ### Discovery -/

open Json in
/-- The versions of the core group. -/
def readCoreVersions : Json → Option (List String)
  | .obj ms => if isOfType "v1" "APIVersions" ms then lenient ms "versions" (list? str?) else none
  | _ => none

open Json in
/-- The group and version that a group goes by: the preferred one, else the first. -/
def readPreferred : Json → Option (Option String)
  | .obj ms => do
    let read : Json → Option String := fun v => lenient v.members "groupVersion" str?
    let preferred ← optional ms "preferredVersion" read
    let versions ← lenient ms "versions" (list? read)
    return preferred <|> versions.head?
  | _ => none

open Json in
/-- The groups and versions to ask for. -/
def readGroups : Json → Option (List String)
  | .obj ms => do
    if !isOfType "v1" "APIGroupList" ms then none
    return (← lenient ms "groups" (list? readPreferred)).filterMap id
  | _ => none

/-- The types of groups that can be asked for; any other group is passed over. -/
def discoverGroups {ε : Type} (r : Remote σ) : List String → Op σ ε (List DiscoveryList)
  | [] => return []
  | g :: gs => do
    match ← outcome (r.send .get ("/apis/" ++ g) DiscoveryList.ofJson?) with
    | .ok l => return l :: (← r.discoverGroups gs)
    | .error _ => r.discoverGroups gs

/-- The types of the core group's first version and of every other group's preferred version. -/
def discover (r : Remote σ) : Op σ ApiError (List DiscoveryList) := do
  let versions ← mapError (fun _ => .discovery belowApi) (r.send .get "/api" readCoreVersions)
  let core ← match versions with
    | [] => pure []
    | v :: _ => do
      pure [← mapError (fun _ => .discovery belowApi) (r.send .get ("/api/" ++ v) DiscoveryList.ofJson?)]
  let groups ← mapError (fun _ => .discovery belowApi) (r.send .get "/apis" readGroups)
  return core ++ (← r.discoverGroups groups)

/-- The served type of a group, version and kind. -/
def resolve (r : Remote σ) (g : Gvk) : Op σ ApiError (ApiResource × Scope) := do
  match ← outcome (r.send .get (versionPath g.group g.version) DiscoveryList.ofJson?) with
  | .error (.refused e) =>
    if e.code = 404 then throw (.notFound g.kind "") else throw (.resolveResource g.text belowApi)
  | .error .lost => throw (.resolveResource g.text belowApi)
  | .ok l =>
    match l.types.find? fun t => t.kind == g.kind && !t.name.toList.contains '/' with
    | none => throw (.notFound g.kind "")
    | some t =>
      let (group, version) := Gvk.splitApiVersion l.groupVersion
      return (⟨t.group.getD group, t.version.getD version, t.kind, t.name⟩, t.scope)

/-! ### Access rules -/

def reviewVersion : String := "authorization.k8s.io/v1"
def reviewKind : String := "SelfSubjectRulesReview"

open Json in
/-- The rules in a review, and what went wrong while they were evaluated. -/
def readReview : Json → Option (List AccessRule × String)
  | .obj ms => do
    if !isOfType reviewVersion reviewKind ms then none
    lenient ms "status" fun status => do
      return (← lenient status.members "resourceRules" (list? AccessRule.ofJson?),
        ← lenient status.members "evaluationError" str?)
  | _ => none

/-- The rules granted in a namespace. -/
def accessRules (r : Remote σ) («namespace» : String) : Op σ ApiError (List AccessRule) := do
  let review := Json.ofPairs [("apiVersion", .str reviewVersion), ("kind", .str reviewKind), ("metadata", .obj []),
    ("spec", .ofPairs [("namespace", .str «namespace»)])]
  let (rules, flaw) ← mapError (fun _ => .createRulesReview «namespace» belowApi)
    (r.send .post ("/apis/" ++ reviewVersion ++ "/selfsubjectrulesreviews") readReview (some (jsonContent, review)))
  if flaw ≠ "" then throw (.rulesEvaluation «namespace» flaw)
  return rules

/-! ### Objects -/

open Json in
/-- The objects of a list. -/
def readList : Json → Option (List Object)
  | .obj ms => required ms "items" (list? Object.ofJson?)
  | _ => none

def list (remote : Remote σ) (r : ApiResource) («namespace» selector : Option String) :
    Op σ ApiError (List Object) :=
  let query := match selector with
    | some s => "?" ++ HttpTarget.queryText [("labelSelector", s)]
    | none => ""
  mapError (·.toError "list" r.kind "") (remote.send .get (collectionPath r «namespace» ++ query) readList)

def getObject (remote : Remote σ) (r : ApiResource) («namespace» : Option String) (name : String) :
    Op σ ApiError (Option Object) := do
  match ← outcome (remote.sendFor .get r «namespace» name "" Object.ofJson?) with
  | .ok o => return some o
  | .error e =>
    match e with
    | .refused refusal => if refusal.isMissing then return none else throw (e.toError "get" r.kind name)
    | .lost => throw (e.toError "get" r.kind name)

/-- Creates or updates an object; the fields it sets become the operator's. -/
def applyObject (remote : Remote σ) (r : ApiResource) (o : Object) : Op σ ApiError Object :=
  match o.metadata.name with
  | none => throw (.missingName r.kind)
  | some name =>
    let o := { o with
      types := some (o.types.getD ⟨r.apiVersion, r.kind⟩)
      metadata := { o.metadata with managedFields := none } }
    let query := HttpTarget.queryText [("force", "true"), ("fieldManager", remote.fieldManager)]
    mapError (·.toError "apply" r.kind name)
      (remote.sendFor .patch r o.metadata.namespace name ("?" ++ query) Object.ofJson? (some (applyContent, o.toJson)))

def mergePatch (remote : Remote σ) (r : ApiResource) («namespace» : Option String) (name : String) (patch : Json) :
    Op σ ApiError Object :=
  mapError (·.toError "patch" r.kind name)
    (remote.sendFor .patch r «namespace» name "" Object.ofJson? (some (mergeContent, patch)))

def patchStatus (remote : Remote σ) (r : ApiResource) («namespace» : Option String) (name : String) (status : Json) :
    Op σ ApiError Unit := do
  let _ ← mapError (·.toError "patch status of" r.kind name)
    (remote.sendFor .patch r «namespace» name "/status" Object.ofJson?
      (some (mergeContent, .ofPairs [("status", status)])))

/-- A deletion is answered by the object or by a status. -/
def readDeleted (j : Json) : Option Unit :=
  if j.member "kind" = .str "Status" then (Refused.ofJson? j).map fun _ => () else (Object.ofJson? j).map fun _ => ()

def delete (remote : Remote σ) (r : ApiResource) («namespace» : Option String) (name : String) (policy : Propagation) :
    Op σ ApiError Unit :=
  mapError (·.toError "delete" r.kind name)
    (remote.sendFor .delete r «namespace» name "" readDeleted
      (some (jsonContent, .ofPairs [("propagationPolicy", .str policy.text)])))

end Remote
end PlatformOperator
