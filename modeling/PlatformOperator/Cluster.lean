import PlatformOperator.Catalog
import PlatformOperator.Cluster.Key
import PlatformOperator.Cluster.Selector
import PlatformOperator.Json.Patch

/-! A cluster in memory: objects under their keys, with the behaviour of an API server that
    reconciliation rests on: server-side apply, merge patches, label selectors, finalizers, deletion
    timestamps and the deletion of owned objects. -/

namespace PlatformOperator

/-- Refusals a cluster can be set up to answer with. -/
inductive Refusal where
  | forbidden
  | methodNotAllowed
  | notFound
  | conflict
  deriving DecidableEq, Repr, Inhabited

namespace Refusal

/-- The name of a refusal, which is that of its failure. -/
def text : Refusal → String
  | .forbidden => "Forbidden"
  | .methodNotAllowed => "MethodNotAllowed"
  | .notFound => "NotFound"
  | .conflict => "Conflict"

def all : List Refusal := [.forbidden, .methodNotAllowed, .notFound, .conflict]

def ofText? (s : String) : Option Refusal := all.find? (·.text == s)

def error (kind name : String) : Refusal → ApiError
  | .forbidden => .forbidden kind "access denied"
  | .methodNotAllowed => .methodNotAllowed kind
  | .notFound => .notFound kind name
  | .conflict => .conflict kind name "the object has been modified"

end Refusal

structure Cluster where
  /-- The types that the API serves. -/
  served : List DiscoveryList
  rules : List AccessRule
  /-- The objects in the order of their keys; no two have the same. -/
  objects : List (Key × Object)
  /-- Kinds whose listing is refused. -/
  listRefusals : List (String × Refusal)
  /-- Kinds whose deletion is refused. -/
  deleteRefusals : List (String × Refusal)
  /-- The number of UIDs given out. -/
  uids : Nat
  ascending : objects.Pairwise fun p q => p.1.lt q.1
  deriving DecidableEq, Repr

namespace Cluster

def allVerbs : List String :=
  ["create", "delete", "deletecollection", "get", "list", "patch", "update", "watch"]

def servedList (groupVersion : String) (types : List (String × String × Bool)) : DiscoveryList :=
  ⟨groupVersion, types.map fun t => ⟨t.1, t.2.1, t.2.2, allVerbs, none, none⟩⟩

/-- A cluster without objects that serves some common types and lets the operator do anything. -/
def empty : Cluster where
  served := [
    servedList "v1" [("configmaps", "ConfigMap", true), ("secrets", "Secret", true),
      ("namespaces", "Namespace", false), ("pods", "Pod", true)],
    servedList "apps/v1" [("deployments", "Deployment", true)],
    servedList "rbac.authorization.k8s.io/v1" [("clusterroles", "ClusterRole", false), ("roles", "Role", true)],
    servedList "coordination.k8s.io/v1" [("leases", "Lease", true)],
    servedList "apiextensions.k8s.io/v1" [("customresourcedefinitions", "CustomResourceDefinition", false)],
    servedList "features.opendatahub.io/v1" [("featuretrackers", "FeatureTracker", false)],
    servedList "components.platform.opendatahub.io/v1alpha1" [("dashboards", "Dashboard", false)]]
  rules := [⟨["*"], some ["*"], some ["*"], none⟩]
  objects := []
  listRefusals := []
  deleteRefusals := []
  uids := 0
  ascending := .nil

/-! ### Objects by key -/

def object? (c : Cluster) (k : Key) : Option Object := c.objects.lookup k

/-- Puts an object under a key, in the place that keeps the keys ascending. -/
def putIn (k : Key) (o : Object) : List (Key × Object) → List (Key × Object)
  | [] => [(k, o)]
  | (k', o') :: os => if k.lt k' then (k, o) :: (k', o') :: os else if k = k' then (k, o) :: os
      else (k', o') :: putIn k o os

theorem mem_putIn {k : Key} {o : Object} {p : Key × Object} :
    ∀ {os : List (Key × Object)}, p ∈ putIn k o os → p = (k, o) ∨ p ∈ os
  | [], h => .inl (List.mem_singleton.mp h)
  | (k', o') :: os, h => by
    simp only [putIn] at h
    split at h
    · exact List.mem_cons.mp h
    · split at h
      · exact (List.mem_cons.mp h).imp_right (List.mem_cons_of_mem _)
      · rcases List.mem_cons.mp h with rfl | h
        · exact .inr List.mem_cons_self
        · exact (mem_putIn h).imp_right (List.mem_cons_of_mem _)

theorem ascending_putIn (k : Key) (o : Object) :
    ∀ {os : List (Key × Object)}, os.Pairwise (fun p q => p.1.lt q.1) →
      (putIn k o os).Pairwise fun p q => p.1.lt q.1
  | [], _ => List.pairwise_singleton _ _
  | (k', o') :: os, h => by
    obtain ⟨hhead, htail⟩ := List.pairwise_cons.mp h
    simp only [putIn]
    split
    · next hlt =>
      refine List.pairwise_cons.mpr ⟨fun p hp => ?_, h⟩
      rcases List.mem_cons.mp hp with rfl | hp
      · exact hlt
      · exact Key.lt_trans hlt (hhead p hp)
    · next hlt =>
      split
      · next heq => exact List.pairwise_cons.mpr ⟨heq ▸ hhead, htail⟩
      · next hne =>
        refine List.pairwise_cons.mpr ⟨fun p hp => ?_, ascending_putIn k o htail⟩
        rcases mem_putIn hp with rfl | hp
        · exact Key.lt_of_not_lt (by simpa using hlt) hne
        · exact hhead p hp

def put (k : Key) (o : Object) (c : Cluster) : Cluster :=
  { c with objects := putIn k o c.objects, ascending := ascending_putIn k o c.ascending }

def drop (k : Key) (c : Cluster) : Cluster :=
  { c with objects := c.objects.filter (·.1 != k), ascending := c.ascending.filter _ }

theorem lookup_cons (k : Key) (p : Key × Object) (os : List (Key × Object)) :
    (p :: os).lookup k = if k = p.1 then some p.2 else os.lookup k := by
  rw [List.lookup_cons]
  split <;> simp_all

theorem object?_put (k k' : Key) (o : Object) (c : Cluster) :
    (c.put k o).object? k' = if k' = k then some o else c.object? k' := by
  simp only [object?, put]
  induction c.objects with
  | nil => simp only [putIn, lookup_cons]
  | cons p os ih =>
    simp only [putIn]
    split
    · rw [lookup_cons]
    · split
      · next h => simp only [lookup_cons, h]; split <;> rfl
      · next h =>
        simp only [lookup_cons, ih]
        by_cases h₁ : k' = p.1
        · rw [if_pos h₁, if_neg (fun h₂ => h (h₂.symm.trans h₁)), if_pos h₁]
        · rw [if_neg h₁, if_neg h₁]

theorem object?_drop (k k' : Key) (c : Cluster) :
    (c.drop k).object? k' = if k' = k then none else c.object? k' := by
  simp only [object?, drop]
  induction c.objects with
  | nil => simp
  | cons p os ih =>
    by_cases h : p.1 = k
    · rw [List.filter_cons_of_neg (by simp [h]), ih, lookup_cons, h]
      split <;> rfl
    · rw [List.filter_cons_of_pos (by simpa using h), lookup_cons, ih, lookup_cons]
      by_cases h₁ : k' = p.1
      · rw [if_pos h₁, if_neg (fun h₂ => h (h₁.symm.trans h₂)), if_pos h₁]
      · rw [if_neg h₁, if_neg h₁]

/-- A cluster holds just the objects found under their keys. -/
theorem mem_objects {c : Cluster} {k : Key} {o : Object} : (k, o) ∈ c.objects ↔ c.object? k = some o := by
  obtain ⟨-, -, os, -, -, -, hasc⟩ := c
  simp only [object?]
  induction os with
  | nil => simp
  | cons p os ih =>
    obtain ⟨hhead, htail⟩ := List.pairwise_cons.mp hasc
    rw [lookup_cons, List.mem_cons, ih htail]
    split
    · next h =>
      subst h
      have hnot : os.lookup p.1 ≠ some o := fun hin => by
        have := hhead _ ((ih htail).mpr hin)
        exact Key.ne_of_lt this rfl
      simp only [hnot, or_false, Option.some.injEq]
      exact ⟨fun h => (congrArg Prod.snd h).symm, fun h => Prod.ext rfl h.symm⟩
    · next h =>
      refine ⟨fun hp => hp.resolve_left ?_, .inr⟩
      exact fun hp => h (congrArg Prod.fst hp)

/-- The objects by the keys they tell by themselves. -/
def toldObjects (c : Cluster) : Dict Object := Dict.ofList (c.objects.map fun p => ((Key.ofObject p.2).text, p.2))

/-- What became of objects between two states: the removed ones, and the new and changed ones. -/
def changes (before after : Cluster) : List (String × Option Object) :=
  let (old, new) := (before.toldObjects, after.toldObjects)
  (old.filter fun p => !new.contains p.1).map (fun p => (p.1, none)) ++
    (new.filter fun p => old.get? p.1 != some p.2).map fun p => (p.1, some p.2)

/-- Gives an object without UID the next one. -/
def withUid (o : Object) (c : Cluster) : Object × Cluster :=
  match o.metadata.uid with
  | some _ => (o, c)
  | none => (o.mapMeta fun m => { m with uid := some ("uid-" ++ toString (c.uids + 1)) }, { c with uids := c.uids + 1 })

/-- Stores an object as it is, under the key it tells, with a UID. -/
def insert (o : Object) (c : Cluster) : Cluster :=
  let (o, c) := c.withUid o
  c.put (Key.ofObject o) o

/-! ### Deletion -/

/-- The keys of the objects that `uid` owns. -/
def dependents (c : Cluster) (uid : String) : List Key :=
  (c.objects.filter fun p => p.2.metadata.owners.any (·.uid == uid)).map (·.1)

/-- Deletes the object at `k` at time `now`: one that holds finalizers is marked as terminating, once;
    any other is removed and, unless dependents are orphaned, what it owns is deleted in the same way.
    At most `depth` objects are removed one below the other. -/
def deleteWithin (now : Timestamp) (policy : Propagation) : Nat → Key → Cluster → Cluster
  | 0, _, c => c
  | depth + 1, k, c =>
    match c.object? k with
    | none => c
    | some o =>
      if o.metadata.finalizerList ≠ [] then
        if o.metadata.isTerminating then c
        else c.put k (o.mapMeta fun m => { m with deletionTimestamp := some now })
      else
        let c := c.drop k
        match policy, o.metadata.uid with
        | .orphan, _ | _, none => c
        | _, some uid => (c.dependents uid).foldl (fun c k => deleteWithin now policy depth k c) c

/-- Deletes the object at `k`. Every removal leaves fewer objects, so their number bounds the depth. -/
def remove (now : Timestamp) (policy : Propagation) (k : Key) (c : Cluster) : Cluster :=
  deleteWithin now policy (c.objects.length + 1) k c

/-! ### Calls -/

/-- The served type with exactly this group, version and kind. -/
def resolve (g : Gvk) (c : Cluster) : Except ApiError (ApiResource × Scope) :=
  match ((c.served.filter (·.groupVersion == g.apiVersion)).flatMap (·.types)).find? (·.kind == g.kind) with
  | some t => .ok (.ofGvk g t.name, t.scope)
  | none => .error (.notFound g.kind "")

/-- The objects of a type, in one namespace or in all, that a selector accepts. -/
def list (r : ApiResource) («namespace» selector : Option String) (c : Cluster) : Except ApiError (List Object) :=
  match c.listRefusals.lookup r.kind with
  | some refusal => .error (refusal.error r.kind "")
  | none =>
    let found := c.objects.filter fun p =>
      p.1.group == r.group && p.1.kind == r.kind &&
        («namespace».isNone || p.1.namespace == «namespace») &&
        selector.all (Selector.selects · (p.2.metadata.labels.getD []))
    .ok (found.map (·.2))

def get (r : ApiResource) («namespace» : Option String) (name : String) (c : Cluster) : Option Object :=
  c.object? (.ofResource r «namespace» name)

/-- What an apply of `o` leaves of an existing object: UID, generation and deletion timestamp, and the
    finalizers and the status where the new object is silent about them. -/
def replacing (old o : Object) : Object where
  types := o.types
  metadata := { o.metadata with
    uid := old.metadata.uid
    generation := old.metadata.generation
    deletionTimestamp := old.metadata.deletionTimestamp
    finalizers := o.metadata.finalizers <|> old.metadata.finalizers }
  content := match Dict.get? o.content "status", Dict.get? old.content "status" with
    | none, some status => Dict.insert "status" status o.content
    | _, _ => o.content

/-- Creates or replaces an object. -/
def apply (r : ApiResource) (o : Object) (c : Cluster) : Except ApiError (Object × Cluster) :=
  match o.metadata.name with
  | none => .error (.missingName r.kind)
  | some name =>
    let o := { o with types := some (o.types.getD ⟨r.apiVersion, r.kind⟩) }
    let k := Key.ofResource r o.metadata.namespace name
    let (o, c) := match c.object? k with
      | some old => (replacing old o, c)
      | none =>
        let (o, c) := c.withUid o
        (o.mapMeta fun m => { m with generation := some (m.generation.getD 1) }, c)
    .ok (o, c.put k o)

/-- Merges a patch into a whole object. A terminating object without finalizers then disappears. -/
def mergePatch (now : Timestamp) (r : ApiResource) («namespace» : Option String) (name : String) (patch : Json)
    (c : Cluster) : Except ApiError (Object × Cluster) :=
  let k := Key.ofResource r «namespace» name
  match c.object? k with
  | none => .error (.notFound r.kind name)
  | some old =>
    match Object.ofJson? (old.toJson.merge patch) with
    | none => .error (.request "patch" r.kind name "<json>")
    | some o =>
      let c := c.put k o
      if o.metadata.isTerminating ∧ o.metadata.finalizerList = [] then .ok (o, c.remove now .background k)
      else .ok (o, c)

/-- Merges `status` into the status of an object; a first status is stored as it is. -/
def patchStatus (r : ApiResource) («namespace» : Option String) (name : String) (status : Json) (c : Cluster) :
    Except ApiError Cluster :=
  let k := Key.ofResource r «namespace» name
  match c.object? k with
  | none => .error (.notFound r.kind name)
  | some o =>
    let merged := match Dict.get? o.content "status" with
      | some current => current.merge status
      | none => status
    .ok (c.put k { o with content := Dict.insert "status" merged o.content })

/-- Deletes an object at time `now`. -/
def delete (now : Timestamp) (r : ApiResource) («namespace» : Option String) (name : String) (policy : Propagation)
    (c : Cluster) : Except ApiError Cluster :=
  match c.deleteRefusals.lookup r.kind with
  | some refusal => .error (refusal.error r.kind name)
  | none =>
    let k := Key.ofResource r «namespace» name
    if (c.object? k).isSome then .ok (c.remove now policy k) else .error (.notFound r.kind name)

end Cluster
end PlatformOperator
