import PlatformOperator.Object.Marks
import PlatformOperator.Proofs.Cluster.Calls
import PlatformOperator.Proofs.Object.Patch

/-! Objects of one type that hold the platform's finalizer: what the operator does to the cluster, and what
    users do, leaves every one of them in place. -/

namespace PlatformOperator
open Relation

theorem Object.Persists.place {o o' : Object} (h : o.Persists o') :
    o'.metadata.namespace = o.metadata.namespace ∧ o'.name = o.name := by
  rcases h with rfl | h
  · exact ⟨rfl, rfl⟩
  · cases h with
    | marked now _ _ => exact ⟨rfl, rfl⟩

/-- The key is one of objects of the type `t`. -/
def Key.IsOf (t : ApiResource) (k : Key) : Prop := k.group = t.group ∧ k.kind = t.kind

namespace Cluster

/-- The object at `k` has this UID and holds the platform's finalizer. -/
def Holds (c : Cluster) (k : Key) (uid : Option String) : Prop :=
  ∃ o, c.object? k = some o ∧ o.metadata.uid = uid ∧ Marks.finalizer ∈ o.metadata.finalizerList

/-- Objects of the type are where their namespace and name say. -/
def InPlace (t : ApiResource) (c : Cluster) : Prop :=
  ∀ k o, k.IsOf t → c.object? k = some o → o.metadata.namespace = k.namespace ∧ o.name = k.name

/-- From `c` to `c'` no object of the type was renamed or lost the platform's finalizer, save those at the
    keys that are `free`. -/
structure Guards (t : ApiResource) (free : Key → Prop) (c c' : Cluster) : Prop where
  inPlace : c.InPlace t → c'.InPlace t
  holds : ∀ k uid, k.IsOf t → ¬free k → c.Holds k uid → c'.Holds k uid

variable {t : ApiResource} {free free' : Key → Prop} {c c₁ c' : Cluster} {k : Key} {o o' : Object} {now : Timestamp}

theorem Guards.of_same (h : ∀ k, k.IsOf t → c'.object? k = c.object? k) : Guards t free c c' where
  inPlace hplace k o hk ho := hplace k o hk ((h k hk).symm.trans ho)
  holds k _ hk _ := fun ⟨o, ho, hrest⟩ => ⟨o, (h k hk).trans ho, hrest⟩

theorem Guards.refl (t : ApiResource) (free : Key → Prop) (c : Cluster) : Guards t free c c := .of_same fun _ _ => rfl

theorem Guards.trans (h₁ : Guards t free c c₁) (h₂ : Guards t free c₁ c') : Guards t free c c' where
  inPlace hplace := h₂.inPlace (h₁.inPlace hplace)
  holds k uid hk hfree hheld := h₂.holds k uid hk hfree (h₁.holds k uid hk hfree hheld)

theorem Guards.widen (h : Guards t free c c') (hsub : ∀ k, free k → free' k) : Guards t free' c c' where
  inPlace := h.inPlace
  holds k uid hk hfree := h.holds k uid hk fun hf => hfree (hsub k hf)

/-- An object may be replaced by one of the same name that holds what the old one held. -/
theorem guards_put (ho : k.IsOf t → c.InPlace t → o'.metadata.namespace = k.namespace ∧ o'.name = k.name)
    (hheld : k.IsOf t → ¬free k → ∀ uid, c.Holds k uid →
      o'.metadata.uid = uid ∧ Marks.finalizer ∈ o'.metadata.finalizerList) :
    Guards t free c (c.put k o') where
  inPlace hplace k₁ o₁ hk₁ ho₁ := by
    rw [object?_put] at ho₁
    split at ho₁
    · rename_i heq
      cases ho₁
      subst heq
      exact ho hk₁ hplace
    · exact hplace k₁ o₁ hk₁ ho₁
  holds k₁ uid hk₁ hfree hholds := by
    by_cases heq : k₁ = k
    · subst heq
      obtain ⟨huid, hfin⟩ := hheld hk₁ hfree uid hholds
      exact ⟨o', by rw [object?_put, if_pos rfl], huid, hfin⟩
    · obtain ⟨o₁, ho₁, hrest⟩ := hholds
      exact ⟨o₁, by rw [object?_put, if_neg heq, ho₁], hrest⟩

/-- Nothing that holds a finalizer is removed by a deletion, whether of itself or of its owners. -/
theorem Sweeps.guards {policy : Propagation} {T : Key → Prop} (h : Sweeps policy T c c') : Guards t free c c' where
  inPlace hplace k o' hk ho' := by
    obtain ⟨o, ho, hpersists⟩ := h.before ho'
    obtain ⟨hnamespace, hname⟩ := hplace k o hk ho
    exact ⟨hpersists.place.1.trans hnamespace, hpersists.place.2.trans hname⟩
  holds k uid hk _ := by
    rintro ⟨o, ho, huid, hfin⟩
    rcases h.objects k with heq | ⟨-, o₁, ho₁, hdel⟩
    · exact ⟨o, heq.trans ho, huid, hfin⟩
    · cases ho.symm.trans ho₁
      cases hx : c'.object? k with
      | none =>
        rw [hx] at hdel
        cases hdel with
        | removed hnil =>
          rw [hnil] at hfin
          cases hfin
      | some o' =>
        rw [hx] at hdel
        obtain ⟨hfin', -, huid'⟩ := Object.Persists.same (.inr hdel)
        exact ⟨o', hx, huid'.trans huid, hfin' ▸ hfin⟩

theorem remove_guards (now : Timestamp) (policy : Propagation) (k : Key) (c : Cluster) :
    Guards t free c (c.remove now policy k) :=
  (remove_sweeps now policy k c).guards

/-- A created object takes a key that was not taken. -/
theorem insert_guards (hnew : c.object? (.ofObject o) = none) : Guards t free c (c.insert o) := by
  obtain ⟨hkey, hobjects⟩ : Key.ofObject (c.withUid o).1 = .ofObject o ∧ (c.withUid o).2.object? = c.object? := by
    unfold withUid
    split <;> exact ⟨rfl, rfl⟩
  have hput : Guards t free (c.withUid o).2 ((c.withUid o).2.put (.ofObject (c.withUid o).1) (c.withUid o).1) := by
    refine guards_put (fun _ _ => ⟨rfl, rfl⟩) fun _ _ uid => ?_
    rintro ⟨o₁, ho₁, -⟩
    rw [hobjects, hkey, hnew] at ho₁
    cases ho₁
  exact Guards.trans (.of_same fun k _ => congrFun hobjects k) hput

/-- A status says nothing of the metadata. -/
theorem patchStatus_guards {name : String} {«namespace» : Option String} {r : ApiResource} {status : Json}
    (h : c.patchStatus r «namespace» name status = .ok c') : Guards t free c c' := by
  obtain ⟨o, ho, rfl⟩ := patchStatus_ok h
  refine guards_put (fun hk hplace => hplace _ o hk ho) fun _ _ uid => ?_
  rintro ⟨o₁, ho₁, hrest⟩
  cases ho.symm.trans ho₁
  exact hrest

/-- A patch of the finalizers changes nothing else of the metadata. -/
theorem keeps_of_finalizers {fs : List String} (h : Object.ofJson? (o.toJson.merge
      (.ofPairs [("metadata", .ofPairs [("finalizers", .arr (fs.map .str))])])) = some o') :
    o'.metadata.finalizers = some fs ∧ ObjectMeta.Keeps (· = "finalizers") o.metadata o'.metadata := by
  have hmeta : ObjectMeta.ofJson? (.obj (Json.mergeMembers o.metadata.toJson.members
      [("finalizers", .arr (fs.map .str))])) = some o'.metadata :=
    Object.metadata_of_merge h (by simp [Dict.ofList, Dict.insert]) List.mem_cons_self
  refine ⟨ObjectMeta.finalizers_of_merge hmeta, (ObjectMeta.keeps_of_merge hmeta).widen fun k hk => ?_⟩
  by_contra hne
  simp [Dict.get?_cons, hne] at hk

/-- What a merge patch of the finalizers leaves: the object with the new finalizers, swept if it was only waiting
    for that. -/
theorem mergePatch_finalizers {name : String} {«namespace» : Option String} {fs : List String}
    (h : c.mergePatch now t «namespace» name
      (.ofPairs [("metadata", .ofPairs [("finalizers", .arr (fs.map .str))])]) = .ok (o', c')) :
    ∃ o, c.object? (.ofResource t «namespace» name) = some o ∧ o'.metadata.finalizers = some fs ∧
      o'.metadata.uid = o.metadata.uid ∧ o'.metadata.namespace = o.metadata.namespace ∧ o'.name = o.name ∧
        ∃ T, (c.put (.ofResource t «namespace» name) o').Sweeps .background T c' ∧ ∀ k, T k → fs = [] := by
  obtain ⟨o, ho, hread, hs⟩ := mergePatch_ok h
  obtain ⟨hfinalizers, hkeeps⟩ := keeps_of_finalizers hread
  have hname : o'.name = o.name := by
    unfold Object.name ObjectMeta.nameAny
    rw [hkeeps.name (by decide), hkeeps.generateName (by decide)]
  refine ⟨o, ho, hfinalizers, hkeeps.uid (by decide), hkeeps.namespace (by decide), hname, _, hs, fun k hk => ?_⟩
  have hnil := hk.2.2
  rw [ObjectMeta.finalizerList, hfinalizers] at hnil
  exact hnil

/-- A terminating object disappears with its last finalizer; any other one keeps the finalizers of the patch. -/
theorem mergePatch_lets_go {name : String} {«namespace» : Option String} {fs : List String}
    (h : c.mergePatch now t «namespace» name
      (.ofPairs [("metadata", .ofPairs [("finalizers", .arr (fs.map .str))])]) = .ok (o', c')) :
    ∃ o, c.object? (.ofResource t «namespace» name) = some o ∧ o'.metadata.finalizerList = fs ∧
      c'.object? (.ofResource t «namespace» name) =
        if fs = [] ∧ o.metadata.isTerminating = true then none else some o' := by
  obtain ⟨o, ho, hread, hs⟩ := mergePatch_ok h
  obtain ⟨hfinalizers, hkeeps⟩ := keeps_of_finalizers hread
  have hlist : o'.metadata.finalizerList = fs := by rw [ObjectMeta.finalizerList, hfinalizers, Option.getD_some]
  have hterm := hkeeps.deletionTimestamp (by decide)
  have hput : (c.put (.ofResource t «namespace» name) o').object? (.ofResource t «namespace» name) = some o' := by
    rw [object?_put, if_pos rfl]
  refine ⟨o, ho, hlist, ?_⟩
  rw [hlist, hterm] at hs
  split
  · rename_i hgone
    refine (hs.eq_or_none hput (hlist.trans hgone.1)).resolve_left fun hstays => ?_
    exact (hs.targets _ ⟨rfl, hgone.2, hgone.1⟩).not_finalizer_free hstays (hlist.trans hgone.1)
  · rename_i hstays
    exact (hs.unchanged fun k hk _ => hstays ⟨hk.2.2, hk.2.1⟩).trans hput

/-- The finalizers of one object may be patched; only that object can be let go by it. -/
theorem mergePatch_guards {name : String} {«namespace» : Option String} {fs : List String}
    (h : c.mergePatch now t «namespace» name
      (.ofPairs [("metadata", .ofPairs [("finalizers", .arr (fs.map .str))])]) = .ok (o', c'))
    (hfree : Marks.finalizer ∈ fs ∨ free (.ofResource t «namespace» name)) : Guards t free c c' := by
  obtain ⟨o, ho, hfinalizers, huid, hnamespace, hname, _, hs, -⟩ := mergePatch_finalizers h
  refine Guards.trans (guards_put (fun hk hplace => ?_) fun _ hnot uid => ?_) hs.guards
  · obtain ⟨hnamespace', hname'⟩ := hplace _ o hk ho
    exact ⟨hnamespace.trans hnamespace', hname.trans hname'⟩
  · rintro ⟨o₁, ho₁, huid₁, -⟩
    cases ho.symm.trans ho₁
    refine ⟨huid.trans huid₁, ?_⟩
    rw [ObjectMeta.finalizerList, hfinalizers]
    exact hfree.resolve_right hnot

end Cluster
end PlatformOperator
