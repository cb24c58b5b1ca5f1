import PlatformOperator.Proofs.Feature.Step
import PlatformOperator.Proofs.Object.Patch

/-! A feature is undone by its cleanup, wherever its application ended: from the moment an object is applied, the
    tracker is one of its owners, so that the deletion of the tracker takes it along. Only a patch that removes
    the tracker leaves objects behind. -/

namespace PlatformOperator
open Op Relation

/-! ### Tracked objects -/

namespace Cluster
variable {c c' : Cluster} {t k : Key} {uid : String} {ks ks' : Key → Prop} {o : Object}

/-- The object under `t` has the UID, and the objects under the keys `ks` have an owner with it. -/
structure Tracks (t : Key) (uid : String) (ks : Key → Prop) (c : Cluster) : Prop where
  tracker : ∃ o, c.object? t = some o ∧ o.metadata.uid = some uid
  owned : ∀ k o, ks k → c.object? k = some o → ∃ r ∈ o.metadata.owners, r.uid = uid

theorem Tracks.mono (h : c.Tracks t uid ks) (hsub : ∀ k, ks' k → ks k) : c.Tracks t uid ks' where
  tracker := h.tracker
  owned k o hk := h.owned k o (hsub k hk)

theorem Tracks.congr (hsame : ∀ k, k = t ∨ ks k → c'.object? k = c.object? k) (h : c.Tracks t uid ks) :
    c'.Tracks t uid ks where
  tracker := by rw [hsame t (.inl rfl)]; exact h.tracker
  owned k o hk ho := h.owned k o hk ((hsame k (.inr hk)).symm.trans ho)

/-- An object may be replaced by one that the tracker owns, and the tracker by one with its UID. -/
theorem Tracks.replaced (h : c.Tracks t uid fun k' => ks k' ∧ k' ≠ k)
    (hobject : ∀ k', c'.object? k' = if k' = k then some o else c.object? k')
    (huid : k = t → o.metadata.uid = some uid) (howned : ks k → ∃ r ∈ o.metadata.owners, r.uid = uid) :
    c'.Tracks t uid ks where
  tracker := by
    rw [hobject]
    split
    · rename_i heq
      exact ⟨o, rfl, huid heq.symm⟩
    · exact h.tracker
  owned k' o' hk' ho' := by
    rw [hobject] at ho'
    split at ho'
    · rename_i heq
      cases ho'
      exact howned (heq ▸ hk')
    · rename_i hne
      exact h.owned k' o' ⟨hk', hne⟩ ho'

theorem Tracks.sweeps {policy : Propagation} {T : Key → Prop} (h : c.Tracks t uid ks) (hs : c.Sweeps policy T c')
    (ht : c'.object? t ≠ none) : c'.Tracks t uid ks where
  tracker := by
    obtain ⟨o', ho'⟩ := Option.ne_none_iff_exists'.mp ht
    obtain ⟨o, ho, hpersists⟩ := hs.before ho'
    obtain ⟨o₁, ho₁, huid⟩ := h.tracker
    cases ho.symm.trans ho₁
    exact ⟨o', ho', hpersists.same.2.2.trans huid⟩
  owned k o' hk ho' := by
    obtain ⟨o, ho, hpersists⟩ := hs.before ho'
    rw [hpersists.same.2.1]
    exact h.owned k o hk ho

/-- Deleting the tracker withdraws what it owns. -/
theorem Tracks.withdrawn {T : Key → Prop} (h : c.Tracks t uid ks) (hs : c.Sweeps .foreground T c') (hT : T t)
    (hfree : ∀ o, c.object? t = some o → o.metadata.finalizerList = []) (hk : ks k) : c'.Withdrawn k := by
  cases hk' : c.object? k with
  | none => exact withdrawn_of_none (hs.none_of_none hk')
  | some o =>
    obtain ⟨o₁, ho₁, huid⟩ := h.tracker
    obtain ⟨r, hr, hruid⟩ := h.owned k o hk hk'
    have hstep : c.Cascades .foreground t k :=
      ⟨by decide, ⟨o₁, o, ho₁, hk', r, hr, by rw [huid, hruid]⟩, hfree⟩
    exact hs.reached hT (.single hstep)

end Cluster

namespace Feature
open Cluster
variable {f : Feature} {tracker : OwnerReference} {m : Manifest} {x p : Object} {r : ApiResource} {w w₁ w' : World}
  {k : Key} {keys ks : Key → Prop}

/-! ### Steps under a tracker -/

theorem mem_owners_owned : tracker ∈ (f.owned tracker p).metadata.owners := by
  simp [owned, Object.mapMeta, ObjectMeta.owners]

/-- What is applied has the tracker as an owner, and the tracker stays what it is. -/
theorem tracks_of_applied {c c' : Cluster} {o' : Object} (h : c.Tracks f.trackerKey tracker.uid ks)
    (happly : c.apply r (f.owned tracker p) = .ok (o', c')) :
    c'.Tracks f.trackerKey tracker.uid fun k => ks k ∨ k = p.keyIn r := by
  obtain ⟨-, hobject, -, -, -, -, -, howners⟩ := Cluster.apply_ok happly
  have howned : o'.metadata.owners = (f.owned tracker p).metadata.owners := by
    rw [ObjectMeta.owners, howners, ObjectMeta.owners]
  have hkey : (f.owned tracker p).keyIn r = p.keyIn r := owned_keyIn
  refine Tracks.replaced (k := (f.owned tracker p).keyIn r) (h.mono fun k hk => ?_) hobject (fun heq => ?_) fun _ => ?_
  · rw [hkey] at hk
    exact hk.1.resolve_right hk.2
  · obtain ⟨old, hold, huid⟩ := h.tracker
    rw [Cluster.apply_uid happly (heq ▸ hold), huid]
  · exact ⟨tracker, howned ▸ mem_owners_owned, rfl⟩

/-- A step keeps all tracked, unless it is a patch that removes the tracker. -/
theorem applyObject_tracks (hw : w.Within (Tracks f.trackerKey tracker.uid ks))
    (silent : m.isPatch = true → x.metadata.ownerReferences = none ∧ x.metadata.uid = none) :
    (f.applyObject tracker m x w).2.Within (Tracks f.trackerKey tracker.uid ks) ∨
      m.isPatch = true ∧ (f.applyObject tracker m x w).2.cluster.object? f.trackerKey = none := by
  rcases hstep : f.applyObject tracker m x w with ⟨result, w'⟩
  obtain ⟨quiet, hdoes⟩ := applyObject_does hw.quiet hstep
  cases hdoes with
  | nothing hsame => exact .inl ⟨quiet, by rw [hsame]; exact hw.cluster⟩
  | applied r p o' _ _ _ happly =>
    exact .inl ⟨quiet, (tracks_of_applied hw.cluster happly).mono fun _ => .inl⟩
  | merged r p o' hpatch hplaces hmerge =>
    obtain ⟨_, scope, -, -, rfl⟩ := hplaces
    obtain ⟨hnoOwners, hnoUid⟩ := silent hpatch
    obtain ⟨old, hold, hread, hs⟩ := Cluster.mergePatch_ok hmerge
    let k := (Deploy.placed scope f.targetNamespace x).keyIn r
    have hput : (w.cluster.put k o').Tracks f.trackerKey tracker.uid ks := by
      refine Tracks.replaced (hw.cluster.mono fun _ hk => hk.1) (fun k' => Cluster.object?_put k k' o' w.cluster) ?_ ?_
      · intro heq
        obtain ⟨t, ht, huid⟩ := hw.cluster.tracker
        cases hold.symm.trans (heq ▸ ht)
        rw [Object.uid_of_merge hread hnoUid, huid]
      · intro hk
        rw [Object.owners_of_merge hread hnoOwners]
        exact hw.cluster.owned _ old hk hold
    by_cases hgone : w'.cluster.object? f.trackerKey = none
    · exact .inr ⟨hpatch, hgone⟩
    · exact .inl ⟨quiet, hput.sweeps hs hgone⟩

theorem updateTrackerStatus_tracks {uid : String} (status : TrackerStatus) :
    (f.updateTrackerStatus status).Preserves (Tracks f.trackerKey uid ks) := by
  refine updateTrackerStatus_preserves (fun c o content ho h => ?_) status
  refine Tracks.replaced (h.mono fun _ hk => hk.1) (fun k' => Cluster.object?_put _ k' _ c) (fun _ => ?_) fun hk =>
    h.owned _ o hk ho
  obtain ⟨t, ht, huid⟩ := h.tracker
  cases ho.symm.trans ht
  exact huid

/-! ### Whole applications -/

/-- A patch of the application removes the tracker, or an owner of it. -/
def Loses (f : Feature) (w : World) : Prop :=
  ∃ tracker m x w₁, f.Visits w tracker m x w₁ ∧ m.isPatch = true ∧ w₁.cluster.object? f.trackerKey ≠ none ∧
    (f.applyObject tracker m x w₁).2.cluster.object? f.trackerKey = none

/-- The step for the object applies it under the key. -/
def Applies (f : Feature) (tracker : OwnerReference) (m : Manifest) (x : Object) (w : World) (k : Key) : Prop :=
  m.isPatch = false ∧ ∃ w', f.applyObject tracker m x w = (.ok (), w') ∧ k ∈ w.applied w'

theorem Visits.tracked (h : f.Visits w tracker m x w₁) (quiet : w.Quiet) :
    (f.ensureTracker w).2.Within (Tracks f.trackerKey tracker.uid fun _ => False) := by
  obtain ⟨_, _, henter, -⟩ := h
  obtain ⟨previous, wₜ, _, _, hensure, -⟩ := enter_eq_ok.mp henter
  obtain ⟨o, -, ho, huid⟩ := ensureTracker_ok quiet hensure
  have hquiet := (ensureTracker_does (f := f) quiet).1
  rw [hensure] at hquiet ⊢
  exact ⟨hquiet, ⟨o, ho, huid⟩, fun _ _ => False.elim⟩

theorem Visits.tracker_eq {tracker' : OwnerReference} {m' : Manifest} {x' : Object} {w₂ : World}
    (h : f.Visits w tracker m x w₁) (h' : f.Visits w tracker' m' x' w₂) : tracker' = tracker := by
  obtain ⟨_, _, henter, -⟩ := h
  obtain ⟨_, _, henter', -⟩ := h'
  cases henter.symm.trans henter'
  rfl

theorem Applies.does (h : f.Applies tracker m x w k) (quiet : w.Quiet) :
    ∃ r p o' w', f.applyObject tracker m x w = (.ok (), w') ∧ w'.Quiet ∧ f.Places w.cluster x r p ∧ k = p.keyIn r ∧
      w.cluster.apply r (f.owned tracker p) = .ok (o', w'.cluster) := by
  obtain ⟨hpatch, w', hstep, hk⟩ := h
  obtain ⟨quiet', hdoes⟩ := applyObject_does quiet hstep
  cases hdoes with
  | nothing _ hidle =>
    rw [hidle rfl] at hk
    cases hk
  | merged _ _ _ hpatch' =>
    rw [hpatch] at hpatch'
    cases hpatch'
  | applied r p o' _ hplaces _ happly hmade =>
    rw [hmade, List.mem_singleton] at hk
    exact ⟨r, p, o', w', hstep, quiet', hplaces, hk, happly⟩

theorem applies_tracks (quiet : w.Quiet) (hw : w.cluster.Tracks f.trackerKey tracker.uid fun _ => False)
    (happlies : f.Applies tracker m x w k) :
    (f.applyObject tracker m x w).2.Within (Tracks f.trackerKey tracker.uid (· = k)) := by
  obtain ⟨r, p, o', w', hstep, quiet', -, rfl, happly⟩ := happlies.does quiet
  rw [hstep]
  exact ⟨quiet', (tracks_of_applied hw happly).mono fun _ => .inr⟩

/-- No patch of the feature says anything of owners and UIDs. -/
def SilentPatches (f : Feature) : Prop :=
  ∀ m ∈ f.manifests, m.isPatch = true → ∀ data os, m.process data = .ok os →
    ∀ x ∈ os, x.metadata.ownerReferences = none ∧ x.metadata.uid = none

theorem silentPatches_of_plain (h : ∀ m ∈ f.manifests, m.isPatch = true → m.isTemplate = false ∧
    ∀ x ∈ (m.process []).toOption.getD [], x.metadata.ownerReferences = none ∧ x.metadata.uid = none) :
    f.SilentPatches := by
  intro m hm hpatch data os hos x hx
  obtain ⟨hplain, hsilent⟩ := h m hm hpatch
  rw [Manifest.process_of_plain hplain, ← Manifest.process_of_plain hplain []] at hos
  rw [hos] at hsilent
  exact hsilent x hx

section
variable (spares : f.Spares keys) (hT : keys f.trackerKey) (silent : f.SilentPatches) (quiet : w.Quiet)
include spares hT silent quiet

/-- What a manifest applied is tracked to the end, unless the tracker is lost. -/
theorem Visits.tracks (h : f.Visits w tracker m x w₁) (enabled : f.isEnabled = .ok true) (hk : keys k)
    (happlies : f.Applies tracker m x w₁ k) :
    (f.apply w).2.cluster.Tracks f.trackerKey tracker.uid (· = k) ∨ f.Loses w := by
  by_contra hnot
  rw [not_or] at hnot
  obtain ⟨huntracked, hkept⟩ := hnot
  have hlocal {ks : Key → Prop} (hks : ∀ k, ks k → keys k) (c c' : Cluster)
      (hsame : ∀ k, keys k → c'.object? k = c.object? k) (htracks : c.Tracks f.trackerKey tracker.uid ks) :
      c'.Tracks f.trackerKey tracker.uid ks :=
    htracks.congr fun k hk => hsame k (hk.elim (fun heq => heq ▸ hT) (hks k))
  -- Only a patch that loses the tracker could end the tracking.
  have hstep {ks : Key → Prop} (tracker' : OwnerReference) (m : Manifest) (x : Object) (w₂ : World)
      (hvisits : f.Visits w tracker' m x w₂) (hw₂ : w₂.Within (Tracks f.trackerKey tracker.uid ks)) :
      (f.applyObject tracker' m x w₂).2.Within (Tracks f.trackerKey tracker.uid ks) := by
    cases h.tracker_eq hvisits
    obtain ⟨hm, data, os, hos, hx⟩ := hvisits.mem
    refine (applyObject_tracks hw₂ fun hpatch => silent m hm hpatch data os hos x hx).resolve_right ?_
    rintro ⟨hpatch, hgone⟩
    obtain ⟨t, ht, -⟩ := hw₂.cluster.tracker
    exact hkept ⟨tracker, m, x, w₂, hvisits, hpatch, by rw [ht]; exact Option.some_ne_none t, hgone⟩
  have hw₁ := h.within (spares.keeps (hlocal fun _ => False.elim)) updateTrackerStatus_tracks hstep (h.tracked quiet)
  have hend := h.apply_within (spares.keeps (hlocal fun k' (heq : k' = k) => heq ▸ hk)) updateTrackerStatus_tracks hstep
    enabled (applies_tracks hw₁.quiet hw₁.cluster happlies)
  exact huntracked hend.cluster

end

/-- The tracker holds no finalizers, or there is none. -/
def Unbound (f : Feature) (c : Cluster) : Prop :=
  ∀ t, c.object? f.trackerKey = some t → t.metadata.finalizerList = []

/-- An object of the application gives the tracker finalizers. -/
def Binds (f : Feature) (w : World) : Prop :=
  ∃ tracker m x w₁, f.Visits w tracker m x w₁ ∧ f.Unbound w₁.cluster ∧
    ¬f.Unbound (f.applyObject tracker m x w₁).2.cluster

theorem ensureTracker_unbound (quiet : w.Quiet) (unbound : f.Unbound w.cluster) :
    f.Unbound (f.ensureTracker w).2.cluster := by
  obtain ⟨-, heq | ⟨o, happly⟩⟩ := ensureTracker_does (f := f) quiet
  · rw [heq]
    exact unbound
  · intro t ht
    have hobject := (Cluster.apply_ok happly).2.1 f.trackerKey
    rw [newTracker_keyIn, if_pos rfl] at hobject
    cases hobject.symm.trans ht
    have hfinalizers := Cluster.apply_finalizers happly rfl
    rw [newTracker_keyIn] at hfinalizers
    cases hold : w.cluster.object? f.trackerKey with
    | none => rw [ObjectMeta.finalizerList, hfinalizers, hold]; rfl
    | some old =>
      have hfree := unbound old hold
      rw [ObjectMeta.finalizerList] at hfree ⊢
      rw [hfinalizers, hold]
      exact hfree

/-- The tracker is without finalizers in the end if it was before, unless an object gives it some. -/
theorem apply_unbound (enabled : f.isEnabled = .ok true) (spares : f.Spares keys) (hT : keys f.trackerKey)
    (quiet : w.Quiet) (unbound : f.Unbound w.cluster) : f.Unbound (f.apply w).2.cluster ∨ f.Binds w := by
  by_contra hnot
  rw [not_or] at hnot
  obtain ⟨hbound, hnone⟩ := hnot
  refine hbound (apply_within (Q := f.Unbound) (spares.keeps fun c c' hsame h t ht => ?_)
    (updateTrackerStatus_preserves fun c o content ho h t ht => ?_) (fun tracker m x w₁ hvisits hw₁ => ?_) enabled
    ⟨(ensureTracker_does quiet).1, ensureTracker_unbound quiet unbound⟩).cluster
  · exact h t ((hsame f.trackerKey hT).symm.trans ht)
  · rw [Cluster.object?_put, if_pos rfl] at ht
    cases ht
    exact h o ho
  · refine ⟨(applyObject_does hw₁.quiet rfl).1, ?_⟩
    by_contra hstep
    exact hnone ⟨tracker, m, x, w₁, hvisits, hw₁.cluster, hstep⟩

/-- Only an object in the tracker's place gives the tracker finalizers. -/
theorem Binds.placed (h : f.Binds w) (spares : f.Spares keys) (quiet : w.Quiet) :
    ∃ tracker m x w₁ r p, f.Visits w tracker m x w₁ ∧ f.Places w₁.cluster x r p ∧ p.keyIn r = f.trackerKey := by
  obtain ⟨tracker, m, x, w₁, hvisits, hbefore, hafter⟩ := h
  have quiet₁ : w₁.Quiet := hvisits.quiet spares quiet
  by_contra hnone
  have helsewhere {r : ApiResource} {p : Object} (hplaces : f.Places w₁.cluster x r p) : f.trackerKey ≠ p.keyIn r :=
    fun heq => hnone ⟨tracker, m, x, w₁, r, p, hvisits, hplaces, heq.symm⟩
  rcases hstep : f.applyObject tracker m x w₁ with ⟨result, w₂⟩
  rw [hstep] at hafter
  refine hafter fun t ht => ?_
  cases (applyObject_does quiet₁ hstep).2 with
  | nothing hsame => exact hbefore t (hsame ▸ ht)
  | applied r p o' _ hplaces _ happly =>
    rw [(Cluster.apply_ok happly).2.1, owned_keyIn, if_neg (helsewhere hplaces)] at ht
    exact hbefore t ht
  | merged r p o' _ hplaces hmerge =>
    obtain ⟨_, -, -, hs⟩ := Cluster.mergePatch_ok hmerge
    obtain ⟨t₀, ht₀, hpersists⟩ := hs.before ht
    have hkept := (Cluster.object?_put (p.keyIn r) f.trackerKey o' w₁.cluster).trans (if_neg (helsewhere hplaces))
    exact hpersists.same.1.trans (hbefore t₀ (hkept.symm.trans ht₀))

/-! ### Cleanups -/

theorem runAll_ok {ε : Type} (identity : FeatureIdentity) : ∀ (hooks : List FeatureHook) (w : World),
    ∃ causes w', (FeatureHook.runAll identity hooks : Op ε _) w = (.ok causes, w')
  | [], w => ⟨[], w, rfl⟩
  | hook :: hooks, w => by
    rcases hhook : hook identity w with ⟨cause | _, w₁⟩ <;> obtain ⟨causes, w', hrest⟩ := runAll_ok identity hooks w₁
    · exact ⟨cause :: causes, w', (Computation.bind_ok (outcome_eq hhook)).trans (Computation.bind_ok hrest)⟩
    · exact ⟨causes, w', (Computation.bind_ok (outcome_eq hhook)).trans hrest⟩

/-- The world once the cleanup's own steps ran, before the tracker is removed. -/
def released (f : Feature) (w : World) : World :=
  ((FeatureHook.runAll f.identity f.cleanups : Op FeatureError _) w).2

theorem removeTracker_snd :
    (f.removeTracker w).2 = (World.delete Tracker.resource none f.trackerName .foreground w).2 := by
  refine Computation.bind_snd (x := outcome (World.delete Tracker.resource none f.trackerName .foreground))
    fun deleted w₁ => ?_
  rcases deleted with e | _
  · dsimp only
    split <;> rfl
  · rfl

theorem cleanup_snd : (f.cleanup w).2 =
    (World.delete Tracker.resource none f.trackerName .foreground (f.released w)).2 := by
  obtain ⟨failed, w₁, hhooks⟩ := runAll_ok (ε := FeatureError) f.identity f.cleanups w
  have hreleased : f.released w = w₁ := congrArg Prod.snd hhooks
  rw [hreleased, ← removeTracker_snd, cleanup, Computation.bind_ok hhooks]
  refine Computation.bind_snd (x := outcome f.removeTracker) fun removed w₂ => ?_
  by_cases h : failed = []
  · rw [if_neg (not_not.mpr h)]
    rcases removed with e | _ <;> rfl
  · rw [if_pos h]
    rfl

theorem released_same (spares : ∀ hook ∈ f.cleanups, Op.Spares keys (hook f.identity)) (quiet : w.Quiet) :
    (f.released w).Quiet ∧ ∀ k, keys k → (f.released w).cluster.object? k = w.cluster.object? k := by
  have hreleased := runAll_preserves (ε := FeatureError) (Q := fun c => ∀ k, keys k → c.object? k = w.cluster.object? k)
    (fun hook hh => (spares hook hh).preserves fun c c' hsame h k hk => (hsame k hk).trans (h k hk)) w
    ⟨quiet, fun _ _ => rfl⟩
  exact ⟨hreleased.quiet, hreleased.cluster⟩

/-- Removing the tracker sweeps it; if there is none nothing changes. -/
theorem cleanup_sweeps (quiet : (f.released w).Quiet)
    (deleted : (f.released w).cluster.object? f.trackerKey = none ∨
      (World.delete Tracker.resource none f.trackerName .foreground (f.released w)).1 = .ok ()) :
    (f.released w).cluster.Sweeps .foreground (· = f.trackerKey) (f.cleanup w).2.cluster := by
  rw [cleanup_snd]
  rcases World.delete_quiet quiet Tracker.resource none f.trackerName .foreground with ⟨e, _, hcall⟩ | ⟨c, hc, hcall⟩
  · rw [hcall] at deleted ⊢
    have hnone := deleted.resolve_right fun h => by cases h
    exact sweeps_of_withdrawn (withdrawn_of_none hnone)
  · rw [hcall]
    exact Cluster.delete_ok hc

/-- Wherever the application of a feature ended, the deletion of its tracker in a cleanup leaves neither the
    tracker nor any object without finalizers that a manifest applied, unless manifests of the feature gave the
    tracker finalizers or patched it away; and it changes nothing that the tracker does not own, not even through
    others. -/
theorem cleanup_reverts (enabled : f.isEnabled = .ok true) (spares : f.Spares keys)
    (spares' : ∀ hook ∈ f.cleanups, Op.Spares keys (hook f.identity)) (hT : keys f.trackerKey)
    (silent : f.SilentPatches) (quiet : w.Quiet) (unbound : f.Unbound w.cluster) :
    let w₁ := (f.apply w).2
    let w₂ := f.released w₁
    let w₃ := (f.cleanup w₁).2
    w₂.cluster.object? f.trackerKey = none ∨
        (World.delete Tracker.resource none f.trackerName .foreground w₂).1 = .ok () →
      (w₃.cluster.object? f.trackerKey = none ∨ f.Binds w) ∧
        (∀ tracker m x w' k, f.Visits w tracker m x w' → f.Applies tracker m x w' k → keys k →
          (∀ o, w₃.cluster.object? k = some o → o.metadata.finalizerList ≠ []) ∨ f.Loses w ∨ f.Binds w) ∧
        ∀ k, keys k → ¬ReflTransGen w₂.cluster.Owns f.trackerKey k →
          w₃.cluster.object? k = w₁.cluster.object? k := by
  intro w₁ w₂ w₃ deleted
  obtain ⟨quiet₂, hsame⟩ : w₂.Quiet ∧ ∀ k, keys k → w₂.cluster.object? k = w₁.cluster.object? k :=
    released_same spares' (apply_quiet enabled spares quiet)
  have hs : w₂.cluster.Sweeps .foreground (· = f.trackerKey) w₃.cluster := cleanup_sweeps quiet₂ deleted
  have hfree : f.Unbound w₂.cluster ∨ f.Binds w :=
    (apply_unbound enabled spares hT quiet unbound).imp_left fun h t ht => h t ((hsame _ hT).symm.trans ht)
  refine ⟨hfree.imp_left fun free => ?_, fun tracker m x w' k hvisits happlies hk => ?_, fun k hk hunreached => ?_⟩
  · -- A deletion leaves nothing in place but what holds finalizers.
    by_contra hthere
    obtain ⟨t', ht'⟩ := Option.ne_none_iff_exists'.mp hthere
    obtain ⟨t, ht, hpersists⟩ := hs.before ht'
    exact (hs.targets _ rfl).not_finalizer_free ht' (hpersists.same.1.trans (free t ht))
  · -- What was tracked through the application is still owned when the tracker goes.
    rcases hfree with free | hbinds
    · refine (hvisits.tracks spares hT silent quiet enabled hk happlies).imp (fun htracks => ?_) .inl
      have htracks₂ : w₂.cluster.Tracks f.trackerKey tracker.uid (· = k) :=
        htracks.congr fun k' hk' => hsame k' (hk'.elim (fun heq => heq ▸ hT) fun heq => heq ▸ hk)
      exact fun o ho => (htracks₂.withdrawn hs rfl free rfl).not_finalizer_free ho
    · exact .inr (.inr hbinds)
  · refine (hs.unchanged fun t ht => ?_).trans (hsame k hk)
    exact ht ▸ hunreached

/-! ### A map that is undone -/

namespace Sample

def undone (manifests : List Manifest) : Feature where
  name := "undone"
  targetNamespace := "apps"
  appNamespace := "apps"
  manifests := manifests

def mapKey (name : String) : Key := ⟨"", "ConfigMap", some "apps", name⟩

/-- A cluster with a map that the feature does not know. -/
def world : World where
  cluster := Cluster.empty.insert {
    types := some ⟨"v1", "ConfigMap"⟩
    metadata := { name := some "other", «namespace» := some "apps" } }

def settings : Object where
  types := some ⟨"v1", "ConfigMap"⟩
  metadata := { name := some "settings" }

def settingsManifest : Manifest := ⟨"map.yaml", "apiVersion: v1\nkind: ConfigMap\nmetadata:\n  name: settings\n"⟩

/-- The tracker as the owner of what is applied. -/
def owner : OwnerReference :=
  ⟨"features.opendatahub.io/v1", "FeatureTracker", "apps-undone", "uid-2", none, none⟩

theorem undone_spares {manifests : List Manifest} {keys : Key → Prop} : (undone manifests).Spares keys :=
  ⟨List.forall_mem_nil _, List.forall_mem_nil _, List.forall_mem_nil _, List.forall_mem_nil _⟩

theorem undone_unbound {manifests : List Manifest} : (undone manifests).Unbound world.cluster := by
  intro t ht
  have hnone : world.cluster.object? (undone manifests).trackerKey = none := by
    show world.cluster.object? (undone []).trackerKey = none
    decide +kernel
  rw [hnone] at ht
  cases ht

theorem settingsManifest_process (data : Dict Json) : settingsManifest.process data = .ok [settings] := by
  rw [Manifest.process_of_plain (by decide +kernel)]
  decide +kernel

theorem undone_plain : ∀ m ∈ (undone [settingsManifest]).manifests, m.isPatch = false := by
  intro m hm
  rw [List.mem_singleton.mp hm]
  decide +kernel

/-- Applying the feature comes to the map and stores it. -/
theorem undone_visits : ∃ w₁, (undone [settingsManifest]).Visits world owner settingsManifest settings w₁ ∧
    (undone [settingsManifest]).Applies owner settingsManifest settings w₁ (mapKey "settings") := by
  let f := undone [settingsManifest]
  have howner : (f.enter world).1.toOption.map (·.1) = some owner := by decide +kernel
  have happlied : f.Applies owner settingsManifest settings (f.enter world).2 (mapKey "settings") :=
    ⟨by decide +kernel, (f.applyObject owner settingsManifest settings (f.enter world).2).2,
      Computation.eq_ok_of_isOk (by decide +kernel), by decide +kernel⟩
  rcases henter : f.enter world with ⟨e | ⟨tracker, data⟩, w₁⟩ <;> rw [henter] at howner happlied
  · cases howner
  · cases howner
    refine ⟨w₁, ⟨data, w₁, henter, [], [], ?_, rfl⟩, happlied⟩
    show Manifest.objects data [settingsManifest] = _
    rw [Manifest.objects, settingsManifest_process]
    rfl

theorem undone_not_binds : ¬(undone [settingsManifest]).Binds world := by
  intro hbinds
  obtain ⟨tracker, m, x, w₁, r, p, hvisits, ⟨g, scope, hg, hresolve, -⟩, hkey⟩ :=
    hbinds.placed (undone_spares : Feature.Spares _ fun _ => True) rfl
  obtain ⟨hm, data, os, hos, hx⟩ := hvisits.mem
  rw [List.mem_singleton.mp hm, settingsManifest_process] at hos
  cases hos
  rw [List.mem_singleton.mp hx] at hg
  cases hg
  have hmap : r.kind = "ConfigMap" := congrArg Gvk.kind (Cluster.resolve_gvk hresolve)
  have htracker : r.kind = "FeatureTracker" := congrArg Key.kind hkey
  rw [hmap] at htracker
  revert htracker
  decide

theorem undone_not_loses : ¬(undone [settingsManifest]).Loses world := by
  rintro ⟨tracker, m, x, w₁, hvisits, hpatch, -⟩
  rw [undone_plain m hvisits.mem.1] at hpatch
  cases hpatch

end Sample

open Feature.Sample in
/-- A feature applies a map and is cleaned up: neither the map nor the tracker is left, and the other map is as it
    was. -/
theorem cleanup_reverts_sample :
    let f := undone [settingsManifest]
    let w₁ := (f.apply world).2
    let w₃ := (f.cleanup w₁).2
    w₁.cluster.object? (mapKey "settings") ≠ none ∧ w₁.cluster.object? (mapKey "other") ≠ none ∧
      w₃.cluster.object? f.trackerKey = none ∧ w₃.cluster.object? (mapKey "settings") = none ∧
        w₃.cluster.object? (mapKey "other") = w₁.cluster.object? (mapKey "other") := by
  intro f w₁ w₃
  have silent : f.SilentPatches := by
    intro m hm hpatch
    rw [undone_plain m hm] at hpatch
    cases hpatch
  -- The runs are evaluated once for all that is read off them.
  obtain ⟨hdeleted, hsettings, hthere, hfree, hunowned⟩ :
      (World.delete Tracker.resource none f.trackerName .foreground (f.released w₁)).1.isOk = true ∧
        w₁.cluster.object? (mapKey "settings") ≠ none ∧ w₁.cluster.object? (mapKey "other") ≠ none ∧
          (∀ p ∈ w₃.cluster.objects, p.2.metadata.finalizerList = []) ∧
            ∀ p ∈ (f.released w₁).cluster.objects, p.1 = mapKey "other" → p.2.metadata.owners = [] := by
    decide +kernel
  obtain ⟨htracker, hmap, hother⟩ := cleanup_reverts (f := f) (w := world) rfl
    (undone_spares : f.Spares fun _ => True) (List.forall_mem_nil _) trivial silent rfl undone_unbound
    (.inr (Computation.fst_eq_ok_of_isOk hdeleted))
  refine ⟨hsettings, hthere, htracker.resolve_right undone_not_binds, ?_, ?_⟩
  · obtain ⟨w', hvisits, happlies⟩ := undone_visits
    have hheld := (hmap _ _ _ _ _ hvisits happlies trivial).resolve_right
      (not_or.mpr ⟨undone_not_loses, undone_not_binds⟩)
    by_contra hleft
    obtain ⟨o, ho⟩ := Option.ne_none_iff_exists'.mp hleft
    exact hheld o ho (hfree _ (Cluster.mem_objects.mpr ho))
  · refine hother _ trivial fun hchain => ?_
    rcases ReflTransGen.cases_tail hchain with heq | ⟨k, -, o, o', ho, ho', r, hr, -⟩
    · revert heq
      decide +kernel
    · rw [hunowned _ (Cluster.mem_objects.mpr ho') rfl] at hr
      cases hr

namespace Sample

/-- The tracker of the feature, as far as a manifest has to name it. -/
def trackerName : String :=
  "apiVersion: features.opendatahub.io/v1\nkind: FeatureTracker\nmetadata:\n  name: apps-undone\n"

def trackerManifest : Manifest :=
  ⟨"tracker.yaml", trackerName ++ "spec:\n  source:\n    type: Unknown\n    name: undone\n  appNamespace: apps\n"⟩

/-- Patches the metadata of the tracker. -/
def trackerPatch (metadata : String) : Manifest := ⟨"tracker.patch.yaml", trackerName ++ metadata⟩

/-- Removes the tracker before the map is applied, and then applies it anew. -/
def removing : Feature := undone
  [trackerPatch "  deletionTimestamp: \"2024-01-01T00:00:00Z\"\n", settingsManifest, trackerManifest]

def binding : Feature := undone [trackerPatch "  finalizers:\n  - example.com/hold\n"]

end Sample

open Feature.Sample in
/-- A patch of the feature removes the tracker and a map outlives the cleanup, or a patch gives the tracker
    finalizers and the tracker itself does. -/
theorem cleanup_leaves_behind :
    (let w₁ := (removing.apply world).2
      let w₂ := (removing.cleanup w₁).2
      removing.isEnabled = .ok true ∧ removing.SilentPatches ∧ removing.Unbound world.cluster ∧
        (removing.apply world).1 = .ok () ∧
        (World.delete Tracker.resource none removing.trackerName .foreground w₁).1 = .ok () ∧
        (removing.cleanup w₁).1 = .ok () ∧
          world.cluster.object? (mapKey "settings") = none ∧ mapKey "settings" ∈ world.applied w₁ ∧
            ∃ o ∈ w₂.cluster.object? (mapKey "settings"), o.metadata.finalizerList = []) ∧
    (let w₁ := (binding.apply world).2
      let w₂ := (binding.cleanup w₁).2
      binding.isEnabled = .ok true ∧ binding.SilentPatches ∧ binding.Unbound world.cluster ∧
        (binding.apply world).1 = .ok () ∧
        (World.delete Tracker.resource none binding.trackerName .foreground w₁).1 = .ok () ∧
        (binding.cleanup w₁).1 = .ok () ∧ w₂.cluster.object? binding.trackerKey ≠ none) := by
  obtain ⟨happly, hdelete, hcleanup, happlied, hleft⟩ : (removing.apply world).1.isOk = true ∧
      (World.delete Tracker.resource none removing.trackerName .foreground (removing.apply world).2).1.isOk = true ∧
        (removing.cleanup (removing.apply world).2).1.isOk = true ∧
          mapKey "settings" ∈ world.applied (removing.apply world).2 ∧
            ∃ o ∈ (removing.cleanup (removing.apply world).2).2.cluster.object? (mapKey "settings"),
              o.metadata.finalizerList = [] := by
    decide +kernel
  obtain ⟨happly', hdelete', hcleanup', hleft'⟩ : (binding.apply world).1.isOk = true ∧
      (World.delete Tracker.resource none binding.trackerName .foreground (binding.apply world).2).1.isOk = true ∧
        (binding.cleanup (binding.apply world).2).1.isOk = true ∧
          (binding.cleanup (binding.apply world).2).2.cluster.object? binding.trackerKey ≠ none := by
    decide +kernel
  constructor
  · exact ⟨rfl, silentPatches_of_plain (by decide +kernel), undone_unbound, Computation.fst_eq_ok_of_isOk happly,
      Computation.fst_eq_ok_of_isOk hdelete, Computation.fst_eq_ok_of_isOk hcleanup, by decide +kernel, happlied, hleft⟩
  · exact ⟨rfl, silentPatches_of_plain (by decide +kernel), undone_unbound, Computation.fst_eq_ok_of_isOk happly',
      Computation.fst_eq_ok_of_isOk hdelete', Computation.fst_eq_ok_of_isOk hcleanup', hleft'⟩

end Feature
end PlatformOperator
