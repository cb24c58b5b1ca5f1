import PlatformOperator.Action.Collect
import PlatformOperator.Proofs.Collector.Pass

/-! Garbage collection as an action deletes just the objects that are collectable in the world it starts in,
    and with them what they own. -/

namespace PlatformOperator
open Relation

/-! ### Decidable conditions -/

theorem Cluster.ownKeys_iff {c : Cluster} : c.OwnKeys ↔ ∀ p ∈ c.objects, Key.ofObject p.2 = p.1 :=
  ⟨fun h p hp => h p.1 p.2 (mem_objects.mp hp), fun h k o ho => h (k, o) (mem_objects.mpr ho)⟩

instance (c : Cluster) : Decidable c.OwnKeys := decidable_of_iff _ Cluster.ownKeys_iff.symm

/-! ### Refreshed engines -/

namespace Engine
variable {w : World}

theorem catalog_setCatalog (e : Engine) (types : List CatalogType) (w : World) :
    e.catalog (e.setCatalog types w) = types := by
  simp only [catalog, setCatalog, List.lookup_cons, BEq.rfl, Option.getD_some]

/-- The catalog of a refresh are the types that can be deleted. -/
theorem refresh_calm (calm : w.Calm) (e : Engine) («namespace» : String) :
    e.refresh «namespace» w =
      (.ok (), e.setCatalog w.deletable ((w.called .discover).called (.rules «namespace»))) := by
  have hdiscover := Op.mapError_eq_ok (f := CollectError.discoverResources) |>.mpr (World.discover_calm calm)
  have hrules := Op.mapError_eq_ok (f := (CollectError.retrieveResourceRules · «namespace»)) |>.mpr
    (World.accessRules_calm (World.SameSettings.called .discover w |>.calm calm) «namespace»)
  rw [refresh, Computation.bind_ok hdiscover, Computation.bind_ok hrules]
  rfl

end Engine

namespace GarbageCollector

/-- The collector that is told nothing else than its name and engine. -/
def plain (name : String) (engine : Engine) : GarbageCollector := { name, engine }

/-- An object that `g` collects for the request: live, of a type that can be deleted and listed and that
    neither the list of unremovable types nor the choice of types excludes, selected, managed, owned as
    asked for, and accepted. -/
structure Collects (g : GarbageCollector) (r : Request) (w : World) (k : Key) (o : Object) : Prop where
  stored : w.cluster.object? k = some o
  deletable : ∃ t ∈ w.deletable, t.group = k.group ∧ t.kind = k.kind ∧ g.acceptsType t = .ok true
  removable : ∀ u ∈ g.unremovables, ¬(u.group = k.group ∧ u.kind = k.kind)
  granted : w.cluster.listRefusals.lookup k.kind = none
  selected : Selector.selects (g.selector r.subject) (o.metadata.labels.getD [])
  managed : o.metadata.isUnmanaged = false
  owned : g.onlyOwned = true → isOwnedByType o r.subject.resource.group r.subject.resource.kind = true
  accepted : g.acceptsObject (currentState r) o = .ok true
  live : o.metadata.isTerminating = false

section
variable {g : GarbageCollector} {r : Request} {w w' : World} {k : Key} {o : Object} {t : CatalogType}

theorem plain_acceptsObject_eq_ok {name : String} {engine : Engine} {current : CurrentState} {accepted : Bool} :
    (plain name engine).acceptsObject current o = .ok accepted ↔ current.isStale o = .ok accepted :=
  Except.mapError_eq_ok

theorem options_acceptsType_eq_ok_true {subject : Instance} {current : CurrentState} :
    (g.options subject current).acceptsType t = .ok true ↔
      (∀ u ∈ g.unremovables, ¬(u.group = t.group ∧ u.kind = t.kind)) ∧ g.acceptsType t = .ok true := by
  simp only [options]
  split
  · next hany =>
    obtain ⟨u, hu, hmatch⟩ := List.any_eq_true.mp hany
    simp only [Bool.and_eq_true, beq_iff_eq] at hmatch
    exact ⟨fun h => (by cases h), fun h => absurd hmatch (h.1 u hu)⟩
  · next hnone =>
    refine ⟨fun h => ⟨fun u hu hmatch => hnone (List.any_eq_true.mpr ⟨u, hu, ?_⟩), h⟩, fun h => h.2⟩
    simpa only [Bool.and_eq_true, beq_iff_eq] using hmatch

/-- Types of a group and kind are accepted together, as far as the list of unremovable types goes. -/
theorem options_acceptsType_of_removable {subject : Instance} {current : CurrentState} (hgroup : t.group = k.group)
    (hkind : t.kind = k.kind) (hremovable : ∀ u ∈ g.unremovables, ¬(u.group = k.group ∧ u.kind = k.kind))
    (htype : g.acceptsType t = .ok true) : (g.options subject current).acceptsType t = .ok true :=
  options_acceptsType_eq_ok_true.mpr ⟨by rw [hgroup, hkind]; exact hremovable, htype⟩

theorem options_acceptsObject_eq_ok_true {subject : Instance} {current : CurrentState} :
    (g.options subject current).acceptsObject o = .ok true ↔
      o.metadata.isUnmanaged = false ∧
        (g.onlyOwned = true → isOwnedByType o subject.resource.group subject.resource.kind = true) ∧
          g.acceptsObject current o = .ok true := by
  simp only [options]
  cases o.metadata.isUnmanaged <;> cases g.onlyOwned <;>
    cases isOwnedByType o subject.resource.group subject.resource.kind <;> simp

/-- The choice of objects decides on what is managed and owned as asked for. -/
theorem options_acceptsObject_of_owned {subject : Instance} {current : CurrentState}
    (hmanaged : o.metadata.isUnmanaged = false)
    (howned : isOwnedByType o subject.resource.group subject.resource.kind = true) :
    (g.options subject current).acceptsObject o = g.acceptsObject current o := by
  simp only [options, hmanaged, howned, Bool.false_eq_true, if_false, Bool.not_true, Bool.and_false]

/-- What a pass of the collector finds due are the objects it collects. -/
theorem due_iff_collects :
    (g.options r.subject (currentState r)).Due w.deletable w.cluster k o ↔ g.Collects r w k o := by
  constructor
  · intro h
    obtain ⟨t, ht, hgroup, hkind, htype⟩ := h.type
    obtain ⟨hremovable, htype⟩ := options_acceptsType_eq_ok_true.mp htype
    obtain ⟨hmanaged, howned, haccepted⟩ := options_acceptsObject_eq_ok_true.mp h.accepted
    exact ⟨h.stored, ⟨t, ht, hgroup, hkind, htype⟩, hgroup ▸ hkind ▸ hremovable, h.granted, h.selected, hmanaged,
      howned, haccepted, h.live⟩
  · intro h
    obtain ⟨t, ht, hgroup, hkind, htype⟩ := h.deletable
    exact ⟨⟨h.stored, ⟨t, ht, hgroup, hkind, options_acceptsType_of_removable hgroup hkind h.removable htype⟩,
      h.granted, h.selected, h.live⟩,
      options_acceptsObject_eq_ok_true.mpr ⟨h.managed, h.owned, h.accepted⟩⟩

theorem count_sameSettings (f : Tally → Tally) : w.SameSettings (g.count f w) := ⟨rfl, rfl, rfl, .refl _⟩

/-- The world in which a collection starts its pass: the cycle is counted and the catalog is new. -/
def refreshed (g : GarbageCollector) (r : Request) (w : World) : World :=
  let counted := g.count (fun t => { t with cycles := t.cycles + 1 }) w
  g.engine.setCatalog w.deletable
    ((counted.called .discover).called (.rules (g.rulesNamespace.getD r.config.applicationsNamespace)))

theorem refreshed_sameSettings (g : GarbageCollector) (r : Request) (w : World) :
    w.SameSettings (g.refreshed r w) := ⟨rfl, rfl, rfl, .refl _⟩

/-- In a calm world a collection is a pass by the types that can be deleted, whose result is counted. -/
theorem collect_calm (calm : w.Calm) :
    g.collect r w = (Op.mapError .runEngine (Engine.passTypes (g.options r.subject (currentState r))
      (g.propagation.getD g.engine.propagation) w.deletable 0) >>= fun deleted =>
        modify (g.count fun t => { t with deleted := t.deleted + deleted })) (g.refreshed r w) := by
  rw [collect, Computation.bind_ok (Computation.modify_eq _)]
  have hcounted := count_sameSettings (g := g) (w := w) fun t => { t with cycles := t.cycles + 1 }
  rw [Computation.bind_ok (Op.mapError_eq_ok.mpr (g.engine.refresh_calm (hcounted.calm calm) _)),
    hcounted.deletable]
  have hrun : g.engine.run (g.options r.subject (currentState r)) (g.refreshed r w) =
      Engine.passTypes (g.options r.subject (currentState r)) (g.propagation.getD g.engine.propagation) w.deletable 0
        (g.refreshed r w) := by
    rw [Engine.run, Computation.bind_ok Computation.get_eq, refreshed, Engine.catalog_setCatalog]
    rfl
  exact Computation.bind_congr ((Op.mapError_eq hrun).trans (Op.mapError_eq rfl).symm) fun _ _ _ => rfl

/-- A collection is a pass by the types that can be deleted. -/
theorem collect_ok (calm : w.Calm) (willing : w.cluster.deleteRefusals = [])
    (h : g.collect r w = (.ok (), w')) :
    w.SameSettings w' ∧ ∃ T, (g.options r.subject (currentState r)).Passes
      (g.propagation.getD g.engine.propagation) w.deletable T w.cluster w'.cluster := by
  rw [collect_calm calm] at h
  obtain ⟨deleted, w₁, hpass, h⟩ := Computation.bind_eq_ok.mp h
  cases h
  have hset := refreshed_sameSettings g r w
  obtain ⟨hset₁, hpasses⟩ := Engine.passTypes_ok (hset.calm calm) willing (Op.mapError_eq_ok.mp hpass)
  exact ⟨(hset.trans hset₁).trans (count_sameSettings _), hpasses⟩

end
end GarbageCollector

namespace Action

/-- An incomplete render collects nothing, and nothing is counted. -/
theorem collect_of_not_generated (g : GarbageCollector) {run : Run} (h : run.request.generated = false) :
    (collect g).run run = (.ok (), run) := by
  show (RunM.request >>= _) run = _
  rw [Computation.bind_ok RunM.request_eq, if_neg (by rw [h]; exact Bool.false_ne_true)]
  rfl

/-- After a full render the action is a collection. -/
theorem collect_run_of_generated (g : GarbageCollector) {run : Run} (generated : run.request.generated = true) :
    (collect g).run run =
      RunM.ofOp (fun e : CollectionError => .retryable e.cause) (g.collect run.request) run := by
  show (RunM.request >>= fun r : Request =>
    if r.generated then RunM.ofOp (fun e : CollectionError => .retryable e.cause) (g.collect r) else pure ()) run = _
  rw [Computation.bind_ok RunM.request_eq, if_pos generated]

/-- After a full render the world is that of a collection, and the request stays. -/
theorem collect_of_generated {g : GarbageCollector} {run run' : Run} (generated : run.request.generated = true)
    (h : (collect g).run run = (.ok (), run')) :
    g.collect run.request run.world = (.ok (), run'.world) ∧ run'.request = run.request := by
  rw [collect_run_of_generated g generated] at h
  exact RunM.ofOp_eq_ok.mp h

/-- Every collected object is removed, or marked as long as finalizers hold it, and all objects that none of
    them owns, not even through others, stay as they are. -/
theorem collect_exact (g : GarbageCollector) {run : Run} (calm : run.world.Calm)
    (willing : run.world.cluster.deleteRefusals = []) (own : run.world.cluster.OwnKeys) :
    (run.request.generated = false → (collect g).run run = (.ok (), run)) ∧
      (run.request.generated = true → ∀ run', (collect g).run run = (.ok (), run') →
        (∀ k o, g.Collects run.request run.world k o → o.Deleted (run'.world.cluster.object? k)) ∧
          ∀ k, (∀ k₀ o₀, g.Collects run.request run.world k₀ o₀ → ¬ReflTransGen run.world.cluster.Owns k₀ k) →
            run'.world.cluster.object? k = run.world.cluster.object? k) := by
  refine ⟨collect_of_not_generated g, fun generated run' h => ?_⟩
  obtain ⟨-, T, hpass⟩ := GarbageCollector.collect_ok calm willing (collect_of_generated generated h).1
  have hs := hpass.exact own
  refine ⟨fun k o hk => ?_, fun k hk => hs.unchanged fun t ⟨o, hdue⟩ => ?_⟩
  · exact hs.deleted ⟨o, GarbageCollector.due_iff_collects.mpr hk⟩ hk.stored hk.live
  · exact hk t o (GarbageCollector.due_iff_collects.mp hdue)

end Action

/-! ### A collection in a small cluster -/

namespace Sample

/-- A dashboard whose UID is its name. -/
def dashboard (name : String) (generation : Int) : Instance :=
  ⟨Instance.dashboards, { name := some name, uid := some name, generation := some generation }, none, none⟩

/-- A request after a full render. -/
def request (subject : Instance) (resources : List Object) : Request where
  subject := subject
  config := ⟨"apps", none⟩
  release := default
  conditions := ⟨"Ready", [], [], by simp⟩
  resources := resources
  generated := true

def configMap (name : String) : Object where
  types := some ⟨"v1", "ConfigMap"⟩
  metadata := { name := some name, «namespace» := some "apps" }

def configMapKey (name : String) : Key := ⟨"", "ConfigMap", some "apps", name⟩

/-- The configuration map as the dashboard `d` left it at a generation. -/
def rendered (name generation : String) : Object :=
  (configMap name).mapMeta fun m => { m with
    uid := some (name ++ "-uid")
    annotations := some [(Marks.instanceGeneration, generation), (Marks.instanceUid, "d"),
      (Marks.platformType, "Open Data Hub"), (Marks.platformVersion, "0.0.0")]
    labels := some [(Marks.partOf, "dashboard")]
    ownerReferences := some [⟨"components.platform.opendatahub.io/v1alpha1", "Dashboard", "d", "d", some true, none⟩] }

/-- A cluster of configuration maps. -/
def cluster (objects : List Object) : Cluster :=
  objects.foldl (fun c o => c.insert o)
    { Cluster.empty with served := [Cluster.servedList "v1" [("configmaps", "ConfigMap", true)]] }

def collector : GarbageCollector := .plain "gc" ⟨.own "gc", .foreground⟩

/-- The first map is of an earlier generation, the second of the current one. -/
def run : Run := ⟨{ cluster := cluster [rendered "old" "1", rendered "new" "2"] }, request (dashboard "d" 2) []⟩

end Sample

open Sample in
theorem Action.collect_exact_sample :
    ∃ run', (collect collector).run Sample.run = (.ok (), run') ∧
      (rendered "old" "1").Deleted (run'.world.cluster.object? (configMapKey "old")) ∧
        run'.world.cluster.object? (configMapKey "new") = some (rendered "new" "2") := by
  have hrun := Computation.eq_ok_of_isOk (x := (collect collector).run) (s := Sample.run) (by decide +kernel)
  have calm : Sample.run.world.Calm := ⟨rfl, rfl⟩
  obtain ⟨hdeleted, hkept⟩ := (collect_exact collector calm rfl (by decide +kernel)).2 rfl _ hrun
  have hnew : Sample.run.world.cluster.object? (configMapKey "new") = some (rendered "new" "2") := by decide +kernel
  refine ⟨_, hrun, hdeleted _ _ ⟨by decide +kernel, ?_, by decide +kernel, rfl, by decide +kernel, by decide +kernel,
    by decide +kernel, ?_, rfl⟩, (hkept _ fun k o hk hr => ?_).trans hnew⟩
  · exact ⟨⟨"", "v1", "ConfigMap", "configmaps", .namespaced⟩, by decide +kernel, rfl, rfl, rfl⟩
  · exact GarbageCollector.plain_acceptsObject_eq_ok.mpr (by decide +kernel)
  · -- The second map is not stale itself, and no object owns it.
    rcases ReflTransGen.cases_tail hr with rfl | ⟨k', -, o', o₂, ho', ho₂, r, hr, huid⟩
    · cases hnew.symm.trans hk.stored
      have hnot : (GarbageCollector.currentState Sample.run.request).isStale (rendered "new" "2") = .ok false := by
        decide +kernel
      cases hnot.symm.trans (GarbageCollector.plain_acceptsObject_eq_ok.mp hk.accepted)
    · cases hnew.symm.trans ho₂
      have howner : ∀ p ∈ Sample.run.world.cluster.objects, ∀ r ∈ (rendered "new" "2").metadata.owners,
          p.2.metadata.uid ≠ some r.uid := by
        decide +kernel
      exact howner (k', o') (Cluster.mem_objects.mpr ho') r hr huid

end PlatformOperator
