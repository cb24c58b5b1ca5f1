import PlatformOperator.Proofs.Cluster.Cascade
import PlatformOperator.Proofs.Json.Patch

/-! What the calls that change a cluster do if they succeed: an apply and a patch put one object under its key, a
    deletion sweeps its key, and so does a merge patch that takes the last finalizer of a terminating object. -/

namespace PlatformOperator

/-- Where a call on the type `r` looks for the object. -/
def Object.keyIn (o : Object) (r : ApiResource) : Key := .ofResource r o.metadata.namespace o.name

/-- The status of an object once `status` is merged into it; a first status is taken as it is. -/
def Object.mergedStatus (o : Object) (status : Json) : Json :=
  match Dict.get? o.content "status" with
  | some current => current.merge status
  | none => status

/-- The object with this status. -/
def Object.withStatus (o : Object) (status : Json) : Object :=
  { o with content := Dict.insert "status" (o.mergedStatus status) o.content }

/-- What a written status says stands in the stored one, unless it is itself merged into what was there. -/
theorem Object.mergedStatus_get? {o : Object} {ms : Dict Json} {k : String} {p : Json} (hnodup : (ms.map (·.1)).Nodup)
    (h : ms.get? k = some p) (hnull : p ≠ .null) (hflat : ∀ target, Json.merge target p = p) :
    (o.mergedStatus (.obj ms)).get? k = some p := by
  unfold mergedStatus
  cases Dict.get? o.content "status" with
  | none => exact h
  | some current => exact Json.get?_merge hnodup h hnull hflat current

theorem Object.withStatus_get? (o : Object) (status : Json) :
    Dict.get? (o.withStatus status).content "status" = some (o.mergedStatus status) :=
  (Dict.get?_insert _ _ _ _).trans (if_pos rfl)

namespace Cluster
variable {c c' : Cluster} {g : Gvk} {r : ApiResource} {scope : Scope} {o o' old : Object}
  {«namespace» : Option String} {name : String} {now : Timestamp} {patch status : Json} {policy : Propagation}

theorem get_keyIn : c.get r o.metadata.namespace o.name = c.object? (o.keyIn r) := rfl

theorem resolve_gvk (h : c.resolve g = .ok (r, scope)) : r.gvk = g := by
  rw [resolve] at h
  split at h <;> cases h
  rfl

/-- An apply replaces the object in its place, or creates one with a UID and a generation. -/
theorem apply_cases (h : c.apply r o = .ok (o', c')) :
    let typed := { o with types := some (o.types.getD ⟨r.apiVersion, r.kind⟩) }
    (∃ old, c.object? (o.keyIn r) = some old ∧ o' = replacing old typed ∧ c' = c.put (o.keyIn r) o') ∨
      c.object? (o.keyIn r) = none ∧
        o' = (c.withUid typed).1.mapMeta (fun m => { m with generation := some (m.generation.getD 1) }) ∧
          c' = (c.withUid typed).2.put (o.keyIn r) o' := by
  intro typed
  rw [apply] at h
  split at h
  · cases h
  next name hname =>
    have hkey : o.keyIn r = .ofResource r o.metadata.namespace name := by
      rw [Object.keyIn, Object.name, ObjectMeta.nameAny, hname]
      rfl
    rw [hkey]
    cases hold : c.object? (.ofResource r o.metadata.namespace name) with
    | some old =>
      simp only [hold] at h
      cases h
      exact .inl ⟨old, rfl, rfl, rfl⟩
    | none =>
      simp only [hold] at h
      cases h
      exact .inr ⟨rfl, rfl, rfl⟩

/-- An apply stores one object, named and marked as given. -/
theorem apply_ok (h : c.apply r o = .ok (o', c')) :
    c.SameSettings c' ∧ (∀ k, c'.object? k = if k = o.keyIn r then some o' else c.object? k) ∧
      o'.types = some (o.types.getD ⟨r.apiVersion, r.kind⟩) ∧ o'.name = o.name ∧
        o'.metadata.namespace = o.metadata.namespace ∧ o'.metadata.annotations = o.metadata.annotations ∧
          o'.metadata.labels = o.metadata.labels ∧ o'.metadata.ownerReferences = o.metadata.ownerReferences := by
  rcases apply_cases h with ⟨old, -, rfl, rfl⟩ | ⟨-, rfl, rfl⟩
  · exact ⟨⟨rfl, rfl, rfl, rfl⟩, fun k => object?_put _ k _ c, rfl, rfl, rfl, rfl, rfl, rfl⟩
  · cases huid : o.metadata.uid <;> simp only [withUid, huid] <;>
      exact ⟨⟨rfl, rfl, rfl, rfl⟩, fun k => object?_put _ k _ _, rfl, rfl, rfl, rfl, rfl, rfl⟩

/-- An apply succeeds just if the object has a name. -/
theorem apply_eq_ok_iff : (∃ o' c', c.apply r o = .ok (o', c')) ↔ o.metadata.name.isSome := by
  rw [apply]
  cases o.metadata.name with
  | none => exact ⟨fun ⟨_, _, h⟩ => (by cases h), fun h => (by cases h)⟩
  | some name => exact ⟨fun _ => rfl, fun _ => ⟨_, _, rfl⟩⟩

/-- An apply keeps the UID of an existing object. -/
theorem apply_uid (h : c.apply r o = .ok (o', c')) (hold : c.object? (o.keyIn r) = some old) :
    o'.metadata.uid = old.metadata.uid := by
  rcases apply_cases h with ⟨old', hold', rfl, -⟩ | ⟨hnone, -⟩
  · cases hold.symm.trans hold'
    rfl
  · cases hold.symm.trans hnone

/-- An object that is silent about finalizers gets those of the one it replaces. -/
theorem apply_finalizers (h : c.apply r o = .ok (o', c')) (silent : o.metadata.finalizers = none) :
    o'.metadata.finalizers = (c.object? (o.keyIn r)).bind (·.metadata.finalizers) := by
  rcases apply_cases h with ⟨old, hold, rfl, -⟩ | ⟨hnone, rfl, -⟩
  · simp [hold, replacing, silent]
  · rw [hnone]
    cases huid : o.metadata.uid <;> simp only [withUid, huid] <;> exact silent

/-- A patched object is swept if it was only waiting for its last finalizer. -/
theorem mergePatch_ok (h : c.mergePatch now r «namespace» name patch = .ok (o', c')) :
    ∃ o, c.object? (.ofResource r «namespace» name) = some o ∧ Object.ofJson? (o.toJson.merge patch) = some o' ∧
      (c.put (.ofResource r «namespace» name) o').Sweeps .background
        (fun k => k = .ofResource r «namespace» name ∧ o'.metadata.isTerminating = true ∧
          o'.metadata.finalizerList = []) c' := by
  unfold mergePatch at h
  cases ho : c.object? (.ofResource r «namespace» name) with
  | none => simp [ho] at h
  | some o =>
    simp only [ho] at h
    split at h
    · cases h
    · rename_i hread
      split at h
      · rename_i hgone
        cases h
        have hs := remove_sweeps now .background (.ofResource r «namespace» name)
          (c.put (.ofResource r «namespace» name) o')
        exact ⟨o, rfl, hread, hs.widen (fun _ hk => ⟨hk, hgone⟩) fun k hk => hs.targets k hk.1⟩
      · rename_i hstays
        cases h
        exact ⟨o, rfl, hread, (Sweeps.refl _ _).widen (fun _ => False.elim) fun k hk => absurd hk.2 hstays⟩

theorem patchStatus_of_some (ho : c.object? (.ofResource r «namespace» name) = some o) :
    c.patchStatus r «namespace» name status =
      .ok (c.put (.ofResource r «namespace» name) (o.withStatus status)) := by
  unfold patchStatus
  dsimp only
  rw [ho]
  rfl

/-- A new status leaves everything but the status as it is. -/
theorem patchStatus_ok (h : c.patchStatus r «namespace» name status = .ok c') :
    ∃ o, c.object? (.ofResource r «namespace» name) = some o ∧
      c' = c.put (.ofResource r «namespace» name) (o.withStatus status) := by
  cases ho : c.object? (.ofResource r «namespace» name) with
  | none => simp [patchStatus, ho] at h
  | some o =>
    rw [patchStatus_of_some ho] at h
    exact ⟨o, rfl, (Except.ok.inj h).symm⟩

theorem delete_ok (h : c.delete now r «namespace» name policy = .ok c') :
    c.Sweeps policy (· = .ofResource r «namespace» name) c' := by
  unfold delete at h
  split at h
  · cases h
  · dsimp only at h
    split at h
    · cases h
      exact remove_sweeps now policy _ c
    · cases h

end Cluster
end PlatformOperator
