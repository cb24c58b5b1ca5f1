import PlatformOperator.Proofs.Action.Rendered

/-! Two instances of one kind are not kept apart: a collection for one of them takes what was deployed for
    the other, unless the type, the labels or the annotations of the object spare it. -/

namespace PlatformOperator
open Relation

namespace GarbageCollector

/-- What spares an object that another instance of the kind owns: its type is never deleted, cannot be
    deleted or cannot be listed; it is not part of the kind, was opted out, or is terminating already. -/
def Spares (g : GarbageCollector) (r : Request) (w : World) (k : Key) (o : Object) : Prop :=
  (∃ u ∈ g.unremovables, u.group = k.group ∧ u.kind = k.kind) ∨
    (∀ t ∈ w.deletable, ¬(t.group = k.group ∧ t.kind = k.kind)) ∨ w.cluster.listRefusals.lookup k.kind ≠ none ∨
      o.metadata.label? Marks.partOf ≠ some r.subject.label ∨ o.metadata.isUnmanaged = true ∨
        o.metadata.isTerminating = true

section
variable {name : String} {engine : Engine} {w : World} {q r : Request} {owner : OwnerReference} {m o : Object} {k : Key}

/-- Apart from what spares them, objects of other instances are collected. -/
theorem collects_iff_not_spares (ho : w.cluster.object? k = some o) (rendered : Deploy.Rendered q owner m k o)
    (howner : q.subject.controllerReference? = some owner) (names : q.subject.resource.WellNamed)
    (same : r.subject.resource = q.subject.resource) (differ : r.subject.metadata.uid ≠ q.subject.metadata.uid) :
    (plain name engine).Collects r w k o ↔ ¬(plain name engine).Spares r w k o := by
  have hselects : Selector.selects ((plain name engine).selector r.subject) (o.metadata.labels.getD []) = true ↔
      o.metadata.label? Marks.partOf = some r.subject.label := plain_selects_iff (by rw [same]; exact names)
  rw [Spares]
  constructor
  · rintro ⟨-, ⟨t, ht, hgroup, hkind, -⟩, hremovable, hgranted, hselected, hmanaged, -, -, hlive⟩
    rintro (⟨u, hu, hmatch⟩ | hnone | hrefused | hlabel | hunmanaged | hterm)
    · exact hremovable u hu hmatch
    · exact hnone t ht ⟨hgroup, hkind⟩
    · exact hrefused hgranted
    · exact hlabel (hselects.mp hselected)
    · rw [hmanaged] at hunmanaged
      cases hunmanaged
    · rw [hlive] at hterm
      cases hterm
  · intro h
    simp only [not_or, not_exists, not_and, not_forall, not_not, Bool.not_eq_true] at h
    obtain ⟨hremovable, ⟨t, ht, hgroup, hkind⟩, hgranted, hlabel, hmanaged, hlive⟩ := h
    have howned := rendered.isOwnedByType howner names
    rw [← same] at howned
    have huid := (Instance.controllerReference?_eq_some howner).2.2
    have hstale : (currentState r).isStale o = .ok true :=
      CurrentState.isStale_of_stamped_by_other rendered.annotations fun h => differ (h.trans (by rw [huid]; rfl))
    exact ⟨ho, ⟨t, ht, hgroup, hkind, rfl⟩, fun u hu h => hremovable u hu h.1 h.2, hgranted, hselects.mpr hlabel,
      hmanaged, fun _ => howned, plain_acceptsObject_eq_ok.mpr hstale, hlive⟩

end
end GarbageCollector

namespace Action
open GarbageCollector

/-- What was deployed for an instance and not for another one of its kind outlives a reconciliation of the
    other just if something spares it, and if its owners outlive that as well. -/
theorem other_instance_kept_iff {name : String} {engine : Engine} {w : World} {q r : Request} {a b c : Run} {k : Key}
    {o : Object} (calm : w.Calm) (willing : w.cluster.deleteRefusals = []) (own : w.cluster.OwnKeys)
    (full : r.generated = true) (names : q.subject.resource.WellNamed)
    (same : r.subject.resource = q.subject.resource) (differ : r.subject.metadata.uid ≠ q.subject.metadata.uid)
    (deployed₁ : deploy.run ⟨w, q⟩ = (.ok (), a)) (deployed₂ : deploy.run ⟨a.world, r⟩ = (.ok (), b))
    (collected : (collect (.plain name engine)).run b = (.ok (), c)) (hk : k ∈ w.applied a.world)
    (hk₂ : k ∉ a.world.applied b.world) (ho : a.world.cluster.object? k = some o) :
    c.world.cluster.object? k = some o ↔
      (plain name engine).Spares r w k o ∧
        ∀ k₀ o₀, (plain name engine).Collects b.request b.world k₀ o₀ →
          TransGen (b.world.cluster.Cascades engine.propagation) k₀ k →
            o.metadata.finalizerList ≠ [] ∧ o.metadata.isTerminating = true := by
  obtain ⟨owner, howner, hdeploy₁, -⟩ := deploy_ok calm deployed₁
  obtain ⟨_, -, hdeploy₂, resources, hrequest⟩ := deploy_ok (by exact hdeploy₁.settings.calm calm) deployed₂
  have hset := hdeploy₁.settings.trans hdeploy₂.settings
  obtain ⟨m, -, o', ho', rendered⟩ := hdeploy₁.applied k hk
  cases ho.symm.trans ho'
  have hob : b.world.cluster.object? k = some o := (hdeploy₂.kept k hk₂).trans ho
  have hfull : b.request.generated = true := by rw [hrequest]; exact full
  obtain ⟨-, T, hpass⟩ := collect_ok (hset.calm calm) (hset.cluster.deleteRefusals.trans willing)
    (collect_of_generated hfull collected).1
  have hs := hpass.exact (hdeploy₂.ownKeys (hdeploy₁.ownKeys own))
  have hcollects : (plain name engine).Collects b.request b.world k o ↔ ¬(plain name engine).Spares r w k o := by
    rw [collects_iff_not_spares hob rendered howner names (by rw [hrequest]; exact same)
      (by rw [hrequest]; exact differ), Spares, Spares, hset.deletable, hset.cluster.listRefusals, hrequest]
  rw [hs.kept_iff hob]
  constructor
  · intro h
    refine ⟨by_contra fun hnot => ?_, fun k₀ o₀ hk₀ hchain => ?_⟩
    · have hself := hcollects.mpr hnot
      have hterm := (h k ⟨o, due_iff_collects.mpr hself⟩ .refl o hob).2
      rw [hself.live] at hterm
      cases hterm
    · exact h k₀ ⟨o₀, due_iff_collects.mpr hk₀⟩ hchain.to_reflTransGen o hob
  · rintro ⟨hspared, hchain⟩ t ⟨o₀, hdue⟩ hr o' ho'
    cases hob.symm.trans ho'
    rcases reflTransGen_iff_eq_or_transGen.mp hr with rfl | hr
    · cases hob.symm.trans hdue.stored
      exact absurd hspared (hcollects.mp (due_iff_collects.mp hdue))
    · exact hchain t o₀ (due_iff_collects.mp hdue) hr

/-! ### Two dashboards -/

section Sample
open Sample

/-- One dashboard deploys a map, the other one nothing. -/
theorem other_instance_kept_iff_sample :
    let a := deployed { cluster := cluster [] } (render "b" 1 ["settings"])
    let b := deployed a.world (render "a" 1 [])
    let c := collected b
    ∃ o, a.world.cluster.object? (configMapKey "settings") = some o ∧
      (c.world.cluster.object? (configMapKey "settings") = some o ↔
        collector.Spares (render "a" 1 []) { cluster := cluster [] } (configMapKey "settings") o ∧
          ∀ k₀ o₀, collector.Collects b.request b.world k₀ o₀ →
            TransGen (b.world.cluster.Cascades collector.engine.propagation) k₀ (configMapKey "settings") →
              o.metadata.finalizerList ≠ [] ∧ o.metadata.isTerminating = true) := by
  intro a b c
  have calm : World.Calm { cluster := cluster [] } := ⟨rfl, rfl⟩
  have own : (cluster []).OwnKeys := by decide +kernel
  have same : (render "a" 1 []).subject.resource = (render "b" 1 ["settings"]).subject.resource := rfl
  have differ : (render "a" 1 []).subject.metadata.uid ≠ (render "b" 1 ["settings"]).subject.metadata.uid := by decide
  obtain ⟨hdeploy₁, hdeploy₂, hcollect, hk, hk₂, hsome⟩ :
      (deploy.run ⟨{ cluster := cluster [] }, render "b" 1 ["settings"]⟩).1.isOk = true ∧
        (deploy.run ⟨a.world, render "a" 1 []⟩).1.isOk = true ∧ ((collect collector).run b).1.isOk = true ∧
          configMapKey "settings" ∈ World.applied { cluster := cluster [] } a.world ∧
            configMapKey "settings" ∉ a.world.applied b.world ∧
              (a.world.cluster.object? (configMapKey "settings")).isSome = true := by
    decide +kernel
  obtain ⟨o, ho⟩ := Option.isSome_iff_exists.mp hsome
  have hdeploy₁ : deploy.run ⟨{ cluster := cluster [] }, render "b" 1 ["settings"]⟩ = (.ok (), a) :=
    Computation.eq_ok_of_isOk hdeploy₁
  have hdeploy₂ : deploy.run ⟨a.world, render "a" 1 []⟩ = (.ok (), b) := Computation.eq_ok_of_isOk hdeploy₂
  have hcollect : (collect collector).run b = (.ok (), c) := Computation.eq_ok_of_isOk hcollect
  exact ⟨o, ho, other_instance_kept_iff calm rfl own rfl dashboards_wellNamed same differ hdeploy₁ hdeploy₂ hcollect
    hk hk₂ ho⟩

/-- The collection for one dashboard takes the map that the other one controls and has just rendered. -/
theorem collection_crosses_instances :
    let a := deployed { cluster := cluster [] } (render "b" 1 ["settings"])
    let b := deployed a.world (render "a" 1 [])
    let c := collected b
    (deploy.run ⟨{ cluster := cluster [] }, render "b" 1 ["settings"]⟩ = (.ok (), a) ∧
      deploy.run ⟨a.world, render "a" 1 []⟩ = (.ok (), b) ∧ (collect collector).run b = (.ok (), c)) ∧
      (∃ o, b.world.cluster.object? (configMapKey "settings") = some o ∧
        (∃ owner ∈ o.metadata.owners, owner.controller = some true ∧ owner.uid = "b") ∧
          (currentState (render "b" 1 ["settings"])).isStale o = .ok false) ∧
        c.world.cluster.object? (configMapKey "settings") = none := by
  intro a b c
  obtain ⟨hdeploy₁, hdeploy₂, hcollect, hrendered, hgone⟩ :
      (deploy.run ⟨{ cluster := cluster [] }, render "b" 1 ["settings"]⟩).1.isOk = true ∧
        (deploy.run ⟨a.world, render "a" 1 []⟩).1.isOk = true ∧ ((collect collector).run b).1.isOk = true ∧
          (∃ o ∈ b.world.cluster.object? (configMapKey "settings"),
            (∃ owner ∈ o.metadata.owners, owner.controller = some true ∧ owner.uid = "b") ∧
              (currentState (render "b" 1 ["settings"])).isStale o = .ok false) ∧
            c.world.cluster.object? (configMapKey "settings") = none := by
    decide +kernel
  exact ⟨⟨Computation.eq_ok_of_isOk hdeploy₁, Computation.eq_ok_of_isOk hdeploy₂,
    Computation.eq_ok_of_isOk hcollect⟩, hrendered, hgone⟩

end Sample
end Action
end PlatformOperator
