import PlatformOperator.Action.Collect
import PlatformOperator.Proofs.Action.Redeployment
import PlatformOperator.Proofs.Collector.Spread
import PlatformOperator.Proofs.Feature.Step

/-! Objects that were opted out of management: deployments, collections and the manifests of features leave them
    as they are. Only the patches of a feature do not ask whether an object was opted out. -/

namespace PlatformOperator
open Op Relation

variable {k : Key} {o : Object}

/-- The object under `k` is `o`. -/
def Cluster.Stores (k : Key) (o : Object) (c : Cluster) : Prop := c.object? k = some o

theorem World.applyObject_stores {r : ApiResource} {x : Object} (hne : k ≠ x.keyIn r) :
    (World.applyObject r x).Preserves (Cluster.Stores k o) := by
  intro w hw
  rcases applyObject_quiet hw.quiet r x with ⟨e, _, hcall⟩ | ⟨o', c, hc, hcall⟩
  · rw [hcall]
    exact ⟨hw.quiet, hw.cluster⟩
  · rw [hcall]
    exact ⟨hw.quiet, (((Cluster.apply_ok hc).2.1 k).trans (if_neg hne)).trans hw.cluster⟩

/-! ### Deployments -/

namespace Deploy
variable {r : Request} {owner : OwnerReference} {x : Object}

theorem deploy_preserves (optedOut : o.metadata.isUnmanaged = true) :
    (deploy r owner x).Preserves (Cluster.Stores k o) := by
  intro w hw
  have houtcome := deploy_outcome hw.quiet r owner x
  rcases hdeploy : deploy r owner x w with ⟨result, w'⟩
  rw [hdeploy] at houtcome
  cases houtcome with
  | failed _ quiet same =>
    refine ⟨quiet, ?_⟩
    rw [Cluster.Stores, same]
    exact hw.cluster
  | settled _ quiet _ cluster =>
    refine ⟨quiet, ?_⟩
    rw [Cluster.Stores, cluster]
    exact Cluster.settle_object?_of_unmanaged hw.cluster optedOut _

theorem deployAll_stores (optedOut : o.metadata.isUnmanaged = true) :
    ∀ {os done : List Object} {run : Run}, run.world.Within (Cluster.Stores k o) →
      (deployAll owner done os run).2.world.Within (Cluster.Stores k o)
  | [], _, _, hw => hw
  | x :: os, done, run, hw => by
    rw [deployAll, Computation.bind_ok RunM.request_eq]
    have hdeployed : (deploy run.request owner x run.world).2.Within _ := deploy_preserves optedOut _ hw
    rcases hdeploy : RunM.ofOp DeployError.actionError (deploy run.request owner x) run with ⟨e | deployed, run₁⟩
    · rw [Computation.bind_error hdeploy]
      obtain rfl : _ = run₁ := congrArg Prod.snd hdeploy
      exact hdeployed
    · rw [Computation.bind_ok hdeploy, RunM.modifyRequest, Computation.bind_ok (Computation.modify_eq _)]
      obtain rfl : _ = run₁ := congrArg Prod.snd hdeploy
      exact deployAll_stores optedOut hdeployed

end Deploy

namespace Action

theorem deploy_stores (optedOut : o.metadata.isUnmanaged = true) {run : Run}
    (hw : run.world.Within (Cluster.Stores k o)) : (deploy.run run).2.world.Within (Cluster.Stores k o) := by
  show ((RunM.request >>= _) run).2.world.Within _
  rw [Computation.bind_ok RunM.request_eq]
  cases run.request.subject.controllerReference? with
  | none => exact hw
  | some owner => exact Deploy.deployAll_stores optedOut hw

/-! ### Collections -/

/-- A collection takes an object that was opted out only along with its owners, or because another object tells
    its key. -/
theorem collect_stores (optedOut : o.metadata.isUnmanaged = true) (g : GarbageCollector) {run : Run}
    (quiet : run.world.Quiet) (ho : run.world.cluster.object? k = some o) :
    let c := run.world.cluster
    let c' := ((collect g).run run).2.world.cluster
    c'.object? k = some o ∨
      (∃ t, c.object? t ≠ none ∧ c'.object? t = none ∧ TransGen c.Owns t k) ∨
        ∃ k₀ o₀, k₀ ≠ k ∧ c.object? k₀ = some o₀ ∧ k₀.told o₀ = k := by
  intro c c'
  obtain ⟨T, hs, hT⟩ : ∃ T, c.Sweeps (g.propagation.getD g.engine.propagation) T c' ∧
      ∀ t, T t → (g.options run.request.subject (GarbageCollector.currentState run.request)).Tells c t := by
    cases hgenerated : run.request.generated with
    | false =>
      have hsame : c' = c := congrArg (World.cluster ·.2.world) (collect_of_not_generated g hgenerated)
      rw [hsame]
      exact ⟨_, .refl _ c, fun _ => False.elim⟩
    | true =>
      have hcollect : ((collect g).run run).2.world = (g.collect run.request run.world).2 := by
        rw [collect_run_of_generated g hgenerated]
        rfl
      have hafter := g.collect_preserves run.request c run.world ⟨quiet, Engine.spreads_refl⟩
      rw [← hcollect] at hafter
      exact hafter.cluster
  -- The object is as it was, or at the end of a chain of owners that starts at a key the collection was told.
  rcases hs.objects k with heq | ⟨⟨t, ht, hreach⟩, -⟩
  · exact .inl (heq.trans ho)
  rcases ReflTransGen.cases_head hreach with rfl | ⟨k₁, hfirst, hrest⟩
  · obtain ⟨k₀, o₀, ho₀, haccepts, htold⟩ := hT t ht
    refine .inr (.inr ⟨k₀, o₀, ?_, ho₀, htold⟩)
    rintro rfl
    cases ho.symm.trans ho₀
    rw [(GarbageCollector.options_acceptsObject_eq_ok_true.mp haccepts).1] at optedOut
    cases optedOut
  · obtain ⟨hthere, hgone⟩ := hs.removed ht hfirst
    refine .inr (.inl ⟨t, hthere, hgone, ?_⟩)
    exact TransGen.mono (fun _ _ hstep => hstep.2.1) _ _ (TransGen.head' hfirst hrest)

end Action

/-! ### Features -/

namespace Feature
variable {f : Feature} {tracker : OwnerReference} {m : Manifest} {x : Object} {w : World}

/-- In the cluster, merging the object as the feature does makes `o'` of the one under `k`. -/
def Merges (f : Feature) (c : Cluster) (x : Object) (k : Key) (o' : Object) : Prop :=
  ∃ r p old, f.Places c x r p ∧ p.keyIn r = k ∧ c.object? k = some old ∧
    Object.ofJson? (old.toJson.merge p.toJson) = some o'

/-- Merging the object changes the one under `k` itself, or removes one that owns it. -/
def Disturbs (f : Feature) (c : Cluster) (x : Object) (k : Key) : Prop :=
  ∃ k₀ o', f.Merges c x k₀ o' ∧ (k₀ = k ∨
    o'.metadata.isTerminating = true ∧ o'.metadata.finalizerList = [] ∧ TransGen (c.put k₀ o').Owns k₀ k)

theorem leaves_of_optedOut (optedOut : o.metadata.isUnmanaged = true) : f.leaves o = true := by
  simp only [ObjectMeta.isUnmanaged, beq_iff_eq] at optedOut
  simp [leaves, optedOut]

/-- Only a patch changes an object that was opted out. -/
theorem applyObject_stores (optedOut : o.metadata.isUnmanaged = true) (hw : w.Within (Cluster.Stores k o)) :
    (f.applyObject tracker m x w).2.Within (Cluster.Stores k o) ∨ m.isPatch = true ∧ f.Disturbs w.cluster x k := by
  rcases hstep : f.applyObject tracker m x w with ⟨result, w'⟩
  obtain ⟨quiet, hdoes⟩ := applyObject_does hw.quiet hstep
  cases hdoes with
  | nothing hsame => exact .inl ⟨quiet, by rw [hsame]; exact hw.cluster⟩
  | applied r p o' _ _ hfree happly =>
    refine .inl ⟨quiet, ?_⟩
    have hne : k ≠ (f.owned tracker p).keyIn r := by
      rintro rfl
      rw [owned_keyIn] at hw
      have hleft := hfree o hw.cluster
      rw [leaves_of_optedOut optedOut] at hleft
      cases hleft
    exact (((Cluster.apply_ok happly).2.1 k).trans (if_neg hne)).trans hw.cluster
  | merged r p o' hpatch hplaces hmerge =>
    obtain ⟨old, hold, hread, hs⟩ := Cluster.mergePatch_ok hmerge
    have hmerges : f.Merges w.cluster x (p.keyIn r) o' := ⟨r, p, old, hplaces, rfl, hold, hread⟩
    by_cases hk : p.keyIn r = k
    · exact .inr ⟨hpatch, _, o', hmerges, .inl hk⟩
    have hput : (w.cluster.put (p.keyIn r) o').object? k = some o :=
      ((Cluster.object?_put _ k _ _).trans (if_neg (Ne.symm hk))).trans hw.cluster
    rcases hs.objects k with heq | ⟨⟨t, ⟨rfl, hterm, hfin⟩, hreach⟩, -⟩
    · exact .inl ⟨quiet, heq.trans hput⟩
    · refine .inr ⟨hpatch, _, o', hmerges, .inr ⟨hterm, hfin, ?_⟩⟩
      have hchain := (reflTransGen_iff_eq_or_transGen.mp hreach).resolve_left (Ne.symm hk)
      exact TransGen.mono (fun _ _ hstep => hstep.2.1) _ _ hchain

/-- Applying a feature leaves an object that was opted out as it is, unless it is the tracker or a patch changes
    it. -/
theorem apply_stores (optedOut : o.metadata.isUnmanaged = true) (enabled : f.isEnabled = .ok true)
    (spares : f.Spares (· = k)) (hne : k ≠ f.trackerKey) (quiet : w.Quiet) (ho : w.cluster.object? k = some o) :
    (f.apply w).2.cluster.object? k = some o ∨ ∃ tracker m x w₁, f.Visits w tracker m x w₁ ∧ m.isPatch = true ∧
      w₁.cluster.object? k = some o ∧ f.Disturbs w₁.cluster x k := by
  by_contra hnot
  rw [not_or] at hnot
  obtain ⟨hchanged, hnone⟩ := hnot
  refine hchanged ?_
  -- Neither the tracker's calls nor the steps touch the object: only a patch could, and none does.
  have hw : w.Within (Cluster.Stores k o) := ⟨quiet, ho⟩
  have hensure : (f.ensureTracker w).2.Within (Cluster.Stores k o) := by
    rw [ensureTracker_snd]
    exact World.applyObject_stores hne w hw
  refine (apply_within (spares.keeps fun c c' hsame h => (hsame k rfl).trans h)
    (updateTrackerStatus_preserves fun c x content _ h => ?_) (fun tracker m x w₁ hvisits hw₁ => ?_)
    enabled hensure).cluster
  · exact ((Cluster.object?_put _ k _ _).trans (if_neg hne)).trans h
  · refine (applyObject_stores optedOut hw₁).resolve_right fun ⟨hpatch, hdisturbs⟩ => ?_
    exact hnone ⟨tracker, m, x, w₁, hvisits, hpatch, hw₁.cluster, hdisturbs⟩

end Feature

/-- Deployments leave objects alone that were opted out. Collections take them only along with their owners, or
    because an object stored under another key tells theirs. Features leave them alone unless they are the tracker
    or merge a patch into them or into an owner, which removes that. -/
theorem opted_out_kept (optedOut : o.metadata.isUnmanaged = true) :
    (∀ run : Run, run.world.Quiet → run.world.cluster.object? k = some o →
      (Action.deploy.run run).2.world.cluster.object? k = some o) ∧
    (∀ (g : GarbageCollector) (run : Run), run.world.Quiet → run.world.cluster.object? k = some o →
      let c := run.world.cluster
      let c' := ((Action.collect g).run run).2.world.cluster
      c'.object? k = some o ∨ (∃ t, c.object? t ≠ none ∧ c'.object? t = none ∧ TransGen c.Owns t k) ∨
        ∃ k₀ o₀, k₀ ≠ k ∧ c.object? k₀ = some o₀ ∧ k₀.told o₀ = k) ∧
    ∀ (f : Feature) (w : World), f.isEnabled = .ok true → f.Spares (· = k) → k ≠ f.trackerKey → w.Quiet →
      w.cluster.object? k = some o →
        (f.apply w).2.cluster.object? k = some o ∨ ∃ tracker m x w₁, f.Visits w tracker m x w₁ ∧ m.isPatch = true ∧
          w₁.cluster.object? k = some o ∧ f.Disturbs w₁.cluster x k :=
  ⟨fun _ quiet ho => (Action.deploy_stores optedOut ⟨quiet, ho⟩).cluster,
    fun g _ quiet ho => Action.collect_stores optedOut g quiet ho,
    fun _ _ enabled spares hne quiet ho => Feature.apply_stores optedOut enabled spares hne quiet ho⟩

/-! ### A map that was opted out -/

namespace Sample

/-- A map of an earlier generation that was opted out. -/
def pinned : Object :=
  { (rendered "pinned" "1").mapMeta (·.annotate Marks.managed "false") with
    content := [("data", .obj [("mode", .str "strict")])] }

def pinnedWorld : World := { cluster := cluster [pinned] }

/-- A feature that describes the map in a manifest of the given name. -/
def pinning (manifest : String) : Feature where
  name := "pinning"
  targetNamespace := "apps"
  appNamespace := "apps"
  managed := true
  manifests := [⟨manifest,
    "apiVersion: v1\nkind: ConfigMap\nmetadata:\n  name: pinned\ndata:\n  mode: relaxed\n"⟩]

theorem pinning_spares {manifest : String} {keys : Key → Prop} : (pinning manifest).Spares keys :=
  ⟨List.forall_mem_nil _, List.forall_mem_nil _, List.forall_mem_nil _, List.forall_mem_nil _⟩

end Sample

open Sample in
/-- A dashboard renders the map, collects garbage, and a feature describes it: it stays as it is. -/
theorem opted_out_kept_sample :
    let k := configMapKey "pinned"
    let run : Run := ⟨pinnedWorld, request (dashboard "d" 2) [configMap "pinned"]⟩
    (Action.deploy.run run).2.world.cluster.object? k = some pinned ∧
      ((Action.collect collector).run run).2.world.cluster.object? k = some pinned ∧
        ((pinning "map.yaml").apply pinnedWorld).2.cluster.object? k = some pinned := by
  intro k run
  have ho : pinnedWorld.cluster.object? k = some pinned := by decide +kernel
  have quiet : pinnedWorld.Quiet := rfl
  obtain ⟨hdeploy, hcollect, happly⟩ := opted_out_kept (k := k) (o := pinned) (by decide +kernel)
  refine ⟨hdeploy run quiet ho, ?_, ?_⟩
  · rcases hcollect collector run quiet ho with hkept | ⟨t, -, -, hchain⟩ | ⟨k₀, o₀, hne, ho₀, -⟩
    · exact hkept
    · -- No object owns the map.
      obtain ⟨k', -, o', o₁, ho', ho₁, r, hr, huid⟩ := TransGen.tail'_iff.mp hchain
      cases ho.symm.trans ho₁
      have howner : ∀ p ∈ pinnedWorld.cluster.objects, ∀ r ∈ pinned.metadata.owners, p.2.metadata.uid ≠ some r.uid := by
        decide +kernel
      exact absurd huid (howner (k', o') (Cluster.mem_objects.mpr ho') r hr)
    · have honly : ∀ p ∈ pinnedWorld.cluster.objects, p.1 = k := by decide +kernel
      exact absurd (honly (k₀, o₀) (Cluster.mem_objects.mpr ho₀)) hne
  · rcases happly (pinning "map.yaml") pinnedWorld rfl pinning_spares (by decide +kernel) quiet ho with
      hkept | ⟨tracker, m, x, w₁, hvisits, hpatch, -, -⟩
    · exact hkept
    · have hm := hvisits.mem.1
      rw [List.mem_singleton.mp hm] at hpatch
      revert hpatch
      decide +kernel

open Sample in
/-- A patch is merged into the map although it was opted out; no object is deleted. -/
theorem patch_changes_opted_out :
    let k := configMapKey "pinned"
    let after := ((pinning "map.patch.yaml").apply pinnedWorld).2.cluster
    pinned.metadata.isUnmanaged = true ∧ pinnedWorld.cluster.object? k = some pinned ∧
      (pinning "map.patch.yaml").isEnabled = .ok true ∧ ((pinning "map.patch.yaml").apply pinnedWorld).1 = .ok () ∧
        (∀ t, pinnedWorld.cluster.object? t ≠ none → after.object? t ≠ none) ∧ after.object? k ≠ some pinned := by
  intro k after
  have honly : ∀ p ∈ pinnedWorld.cluster.objects, after.object? p.1 ≠ none := by decide +kernel
  have happly : ((pinning "map.patch.yaml").apply pinnedWorld).1.isOk = true := by decide +kernel
  refine ⟨by decide +kernel, by decide +kernel, rfl, ?_, fun t ht => ?_, by decide +kernel⟩
  · rw [Computation.eq_ok_of_isOk happly]
  · obtain ⟨o, ho⟩ := Option.ne_none_iff_exists'.mp ht
    exact honly (t, o) (Cluster.mem_objects.mpr ho)

end PlatformOperator
