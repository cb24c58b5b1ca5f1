import PlatformOperator.Proofs.Feature.Application

/-! What the single steps of an application do to the cluster, whatever calls fail: those on objects, and those
    on the tracker. -/

namespace PlatformOperator

theorem Tracker.metadata_of_ofObject? {o : Object} {t : Tracker} (h : ofObject? o = some t) :
    t.metadata = o.metadata := by
  simp only [ofObject?, bind, Option.bind_eq_some_iff, pure, Option.some.injEq] at h
  obtain ⟨_, -, _, -, rfl⟩ := h
  rfl

theorem Tracker.uid_of_ownerReference? {t : Tracker} {owner : OwnerReference} (h : t.ownerReference? = some owner) :
    t.metadata.uid = some owner.uid := by
  obtain ⟨uid, huid, rfl⟩ := Option.map_eq_some_iff.mp h
  exact huid

namespace Feature
open Op
variable {f : Feature} {tracker : OwnerReference} {m : Manifest} {x p : Object} {r : ApiResource} {scope : Scope}
  {w w₁ w' : World} {result : Except FeatureError Unit}

/-- In the cluster, the feature addresses the object as `p`, of type `r`. -/
def Places (f : Feature) (c : Cluster) (o : Object) (r : ApiResource) (p : Object) : Prop :=
  ∃ g scope, o.gvk? = some g ∧ c.resolve g = .ok (r, scope) ∧ p = Deploy.placed scope f.targetNamespace o

/-- What the step for an object does: nothing, or it merges the object into the one in its place, or applies it
    there unless that is left alone. -/
inductive Does (f : Feature) (tracker : OwnerReference) (m : Manifest) (x : Object) (w : World)
    (result : Except FeatureError Unit) (w' : World) : Prop where
  | nothing : w'.cluster = w.cluster → (result.isOk = true → w.applied w' = []) → Does f tracker m x w result w'
  | merged (r : ApiResource) (p o' : Object) : m.isPatch = true → f.Places w.cluster x r p →
      w.cluster.mergePatch w.clock.next r p.metadata.namespace p.name p.toJson = .ok (o', w'.cluster) →
      Does f tracker m x w result w'
  | applied (r : ApiResource) (p o' : Object) : m.isPatch = false → f.Places w.cluster x r p →
      (∀ old, w.cluster.object? (p.keyIn r) = some old → f.leaves old = false) →
      w.cluster.apply r (f.owned tracker p) = .ok (o', w'.cluster) → w.applied w' = [p.keyIn r] →
      Does f tracker m x w result w'

theorem owned_keyIn : (f.owned tracker p).keyIn r = p.keyIn r := by
  unfold owned
  cases f.managed <;> rfl

theorem patchObject_does (quiet : w.Quiet) (hpatch : m.isPatch = true) (hplaces : f.Places w.cluster x r p)
    (g : Gvk) (h : patchObject r p (w.struck (.resolve g)) = (result, w')) :
    w'.Quiet ∧ f.Does tracker m x w result w' := by
  rcases World.mergePatch_quiet (quiet.struck (.resolve g)) r p.metadata.namespace p.name p.toJson with
    ⟨e, _, hcall⟩ | ⟨o', c, hc, hcall⟩
  · rw [patchObject, Computation.bind_error (mapError_eq hcall)] at h
    cases h
    exact ⟨quiet, .nothing rfl fun hok => by cases hok⟩
  · rw [patchObject, Computation.bind_ok (mapError_eq hcall)] at h
    cases h
    exact ⟨quiet, .merged r p o' hpatch hplaces hc⟩

theorem createOrUpdate_does (quiet : w.Quiet) (hpatch : m.isPatch = false) (hplaces : f.Places w.cluster x r p)
    (g : Gvk) (h : f.createOrUpdate tracker r p (w.struck (.resolve g)) = (result, w')) :
    w'.Quiet ∧ f.Does tracker m x w result w' := by
  rcases World.getObject_quiet (quiet.struck (.resolve g)) r p.metadata.namespace p.name with ⟨e, hget⟩ | hget
  · rw [createOrUpdate, Computation.bind_error (mapError_eq hget)] at h
    cases h
    exact ⟨quiet, .nothing rfl fun hok => by cases hok⟩
  · rw [createOrUpdate, Computation.bind_ok (mapError_eq hget)] at h
    split at h
    · cases h
      have hcalls : ((w.struck (.resolve g)).struck (.get r p.metadata.namespace p.name)).calls =
          w.calls ++ [.resolve g, .get r p.metadata.namespace p.name] := List.append_assoc _ _ _
      exact ⟨quiet, .nothing rfl fun _ => World.applied_eq hcalls⟩
    · rename_i hfree
      let w₂ := (w.struck (.resolve g)).struck (.get r p.metadata.namespace p.name)
      rcases World.applyObject_quiet (w := w₂) quiet r (f.owned tracker p) with ⟨e, _, hcall⟩ | ⟨o', c, hc, hcall⟩
      · rw [Computation.bind_error (mapError_eq hcall)] at h
        cases h
        exact ⟨quiet, .nothing rfl fun hok => by cases hok⟩
      · rw [Computation.bind_ok (mapError_eq hcall)] at h
        cases h
        let o := f.owned tracker p
        have hcalls : (w₂.served (.apply r o.metadata.namespace o.name) c).calls = w.calls ++
            [.resolve g, .get r p.metadata.namespace p.name, .apply r o.metadata.namespace o.name] := by
          simp [w₂, World.served, World.struck]
        refine ⟨quiet, .applied r p o' hpatch hplaces (fun old hold => ?_) hc ?_⟩
        · simpa [Cluster.get_keyIn, hold] using hfree
        · have hkey : o.keyIn r = p.keyIn r := owned_keyIn
          rw [World.applied_eq hcalls, ← hkey]
          rfl

theorem applyObject_does (quiet : w.Quiet) (h : f.applyObject tracker m x w = (result, w')) :
    w'.Quiet ∧ f.Does tracker m x w result w' := by
  unfold applyObject at h
  cases hgvk : x.gvk? with
  | none =>
    rw [hgvk] at h
    cases h
    exact ⟨quiet, .nothing rfl fun hok => by cases hok⟩
  | some g =>
    simp only [hgvk] at h
    rcases World.resolve_quiet quiet g with ⟨e, hresolve⟩ | hresolve
    · rw [Computation.bind_error (mapError_eq hresolve)] at h
      cases h
      exact ⟨quiet, .nothing rfl fun hok => by cases hok⟩
    rcases htype : w.cluster.resolve g with e | ⟨r, scope⟩ <;> rw [htype] at hresolve
    · rw [Computation.bind_error (mapError_eq hresolve)] at h
      cases h
      exact ⟨quiet, .nothing rfl fun hok => by cases hok⟩
    rw [Computation.bind_ok (mapError_eq hresolve)] at h
    have hplaces : f.Places w.cluster x r (Deploy.placed scope f.targetNamespace x) := ⟨g, scope, hgvk, htype, rfl⟩
    cases hpatch : m.isPatch with
    | true =>
      simp only [hpatch, if_true] at h
      exact patchObject_does quiet hpatch hplaces g h
    | false =>
      simp only [hpatch, Bool.false_eq_true, if_false] at h
      exact createOrUpdate_does quiet hpatch hplaces g h

/-! ### The tracker -/

/-- Where the tracker is stored. -/
def trackerKey (f : Feature) : Key := .ofResource Tracker.resource none f.identity.trackerName

/-- The tracker as it is applied. -/
def newTracker (f : Feature) : Object := (Tracker.ofFeature f.name f.source f.appNamespace f.owner).toObject

theorem newTracker_keyIn : f.newTracker.keyIn Tracker.resource = f.trackerKey := rfl

theorem ensureTracker_snd : (f.ensureTracker w).2 = (World.applyObject Tracker.resource f.newTracker w).2 := by
  refine Computation.bind_snd fun o w₁ => ?_
  cases Tracker.ofObject? o with
  | none => rfl
  | some t =>
    dsimp only
    cases t.ownerReference? <;> rfl

/-- Ensuring the tracker leaves the cluster alone, or applies the tracker. -/
theorem ensureTracker_does (quiet : w.Quiet) : (f.ensureTracker w).2.Quiet ∧
    ((f.ensureTracker w).2.cluster = w.cluster ∨
      ∃ o, w.cluster.apply Tracker.resource f.newTracker = .ok (o, (f.ensureTracker w).2.cluster)) := by
  rw [ensureTracker_snd]
  rcases World.applyObject_quiet quiet Tracker.resource f.newTracker with ⟨e, _, hcall⟩ | ⟨o, c, hc, hcall⟩
  · rw [hcall]
    exact ⟨quiet, .inl rfl⟩
  · rw [hcall]
    exact ⟨quiet, .inr ⟨o, hc⟩⟩

/-- Every feature that is applied has its tracker in the cluster. -/
theorem ensureTracker_ok {previous : Option TrackerStatus} (quiet : w.Quiet)
    (h : f.ensureTracker w = (.ok (tracker, previous), w')) :
    ∃ o, w.cluster.apply Tracker.resource f.newTracker = .ok (o, w'.cluster) ∧
      w'.cluster.object? f.trackerKey = some o ∧ o.metadata.uid = some tracker.uid := by
  obtain ⟨applied, w₁, happly, h⟩ := Computation.bind_eq_ok.mp h
  rw [mapError_eq_ok] at happly
  rcases World.applyObject_quiet quiet Tracker.resource f.newTracker with ⟨e, _, hcall⟩ | ⟨o, c, hc, hcall⟩
  · cases hcall.symm.trans happly
  · cases hcall.symm.trans happly
    have hobject : c.object? f.trackerKey = some o := ((Cluster.apply_ok hc).2.1 f.trackerKey).trans (if_pos rfl)
    cases ht : Tracker.ofObject? (World.returned w.hiddenUids Tracker.resource o) with
    | none =>
      rw [ht] at h
      cases h
    | some t =>
      simp only [ht] at h
      cases howner : t.ownerReference? with
      | none =>
        rw [howner] at h
        cases h
      | some owner =>
        rw [howner] at h
        cases h
        have huid := Tracker.uid_of_ownerReference? howner
        rw [Tracker.metadata_of_ofObject? ht] at huid
        exact ⟨o, hc, hobject, (World.returned_uid_iff.mp huid).2⟩

theorem updateTrackerStatus_preserves {Q : Cluster → Prop}
    (hQ : ∀ c o content, c.object? f.trackerKey = some o → Q c → Q (c.put f.trackerKey { o with content := content }))
    (status : TrackerStatus) : (f.updateTrackerStatus status).Preserves Q := by
  intro w hw
  show (World.patchStatus Tracker.resource none f.identity.trackerName status.toJson w).2.Within Q
  rcases World.patchStatus_quiet hw.quiet Tracker.resource none f.identity.trackerName status.toJson with
    ⟨e, _, hcall⟩ | ⟨c, hc, hcall⟩
  · rw [hcall]
    exact ⟨hw.quiet, hw.cluster⟩
  · rw [hcall]
    obtain ⟨o, ho, rfl⟩ := Cluster.patchStatus_ok hc
    exact ⟨hw.quiet, hQ _ o _ ho hw.cluster⟩

/-! ### Quiet worlds -/

theorem Visits.quiet {keys : Key → Prop} (h : f.Visits w tracker m x w₁) (spares : f.Spares keys) (hw : w.Quiet) :
    w₁.Quiet :=
  (h.within (Q := fun _ => True) (spares.keeps fun _ _ _ => id) (updateTrackerStatus_preserves fun _ _ _ _ => id)
    (fun _ _ _ _ _ hw => ⟨(applyObject_does hw.quiet rfl).1, trivial⟩) ⟨(ensureTracker_does hw).1, trivial⟩).quiet

theorem apply_quiet {keys : Key → Prop} (enabled : f.isEnabled = .ok true) (spares : f.Spares keys) (hw : w.Quiet) :
    (f.apply w).2.Quiet :=
  (apply_within (Q := fun _ => True) (spares.keeps fun _ _ _ => id) (updateTrackerStatus_preserves fun _ _ _ _ => id)
    (fun _ _ _ _ _ hw => ⟨(applyObject_does hw.quiet rfl).1, trivial⟩) enabled
    ⟨(ensureTracker_does hw).1, trivial⟩).quiet

end Feature
end PlatformOperator
