import PlatformOperator.Proofs.Action.Rendered

/-! Two reconciliations in a row converge: the second collection leaves alone what the second deployment
    applied, and takes what only the first one applied. -/

namespace PlatformOperator
open Relation

/-- Why the collector leaves alone what was deployed under `k` for the request: nothing of the type may be
    deleted, the object was opted out, or it carries the part-of label of something else. A deployment keeps such a
    label of the manifest that it stores. -/
def GarbageCollector.Exempts (g : GarbageCollector) (q : Request) (w : World) (k : Key) (o : Object) : Prop :=
  (∃ u ∈ g.unremovables, u.group = k.group ∧ u.kind = k.kind) ∨
    (∀ t ∈ w.deletable, ¬(t.group = k.group ∧ t.kind = k.kind)) ∨ o.metadata.isUnmanaged = true ∨
      ∃ l, o.metadata.label? Marks.partOf = some l ∧ l ≠ q.subject.label

namespace Action
open Deploy GarbageCollector

section
variable {name : String} {engine : Engine} {run run' : Run} {q : Request} {owner : OwnerReference} {m o : Object}
  {k : Key}

/-- What was deployed for the request of a collection is only lost together with an owner, or in place of an
    object stored under a key that it does not tell. -/
theorem collect_spares (calm : run.world.Calm) (willing : run.world.cluster.deleteRefusals = [])
    (full : run.request.generated = true) (h : (collect (.plain name engine)).run run = (.ok (), run'))
    (ho : run.world.cluster.object? k = some o) (rendered : Rendered run.request owner m k o)
    (huid : run.request.subject.metadata.uid.isSome) :
    run'.world.cluster.object? k = run.world.cluster.object? k ∨
      (∃ k₀, run.world.cluster.object? k₀ ≠ none ∧ run'.world.cluster.object? k₀ = none ∧
        TransGen run.world.cluster.Owns k₀ k) ∨
      ∃ k₀ o₀, k₀ ≠ k ∧ (plain name engine).Collects run.request run.world k₀ o₀ ∧ k₀.told o₀ = k := by
  obtain ⟨-, T, hpass⟩ := collect_ok calm willing (collect_of_generated full h).1
  rcases hpass.sweeps.objects k with heq | ⟨⟨t, ht, hr⟩, -⟩
  · exact .inl heq
  -- The object was collected itself, or along with an owner. Itself it is not stale, so that it was another
  -- object that told its key.
  rcases reflTransGen_iff_eq_or_transGen.mp hr with rfl | hchain
  · obtain ⟨k₀, o₀, hdue, htold⟩ := hpass.told k ht
    have hcollects := due_iff_collects.mp hdue
    refine .inr (.inr ⟨k₀, o₀, ?_, hcollects, htold⟩)
    rintro rfl
    cases ho.symm.trans hdue.stored
    exact CurrentState.not_isStale_of_stamped rendered.annotations huid
      (plain_acceptsObject_eq_ok.mp hcollects.accepted)
  · obtain ⟨x, hstep, -⟩ := TransGen.head'_iff.mp hchain
    obtain ⟨hsome, hnone⟩ := hpass.sweeps.removed ht hstep
    exact .inr (.inl ⟨t, hsome, hnone, TransGen.mono (fun _ _ h => h.2.1) _ _ hchain⟩)

/-- What was deployed for another release or generation is withdrawn, unless it is exempt. -/
theorem collect_takes (calm : run.world.Calm) (listable : run.world.cluster.listRefusals = [])
    (willing : run.world.cluster.deleteRefusals = []) (full : run.request.generated = true)
    (h : (collect (.plain name engine)).run run = (.ok (), run'))
    (ho : run.world.cluster.object? k = some o) (hlive : o.metadata.isTerminating = false)
    (rendered : Rendered q owner m k o) (howner : q.subject.controllerReference? = some owner)
    (names : q.subject.resource.WellNamed) (same : run.request.subject.resource = q.subject.resource)
    (other : q.release ≠ run.request.release ∨ q.subject.generation ≠ run.request.subject.generation) :
    run'.world.cluster.Withdrawn k ∨ (plain name engine).Exempts q run.world k o := by
  obtain ⟨-, T, hpass⟩ := collect_ok calm willing (collect_of_generated full h).1
  refine or_iff_not_imp_right.mpr fun hexempt => ?_
  rw [Exempts, not_or, not_or, not_or] at hexempt
  obtain ⟨hremovable, hdeletable, hmanaged, hlabel⟩ := hexempt
  have hremovable : ∀ u ∈ (plain name engine).unremovables, ¬(u.group = k.group ∧ u.kind = k.kind) :=
    fun u hu hmatch => hremovable ⟨u, hu, hmatch⟩
  have hkind : run.request.subject.label = q.subject.label := by rw [Instance.label, Instance.label, same]
  have hpartOf : o.metadata.label? Marks.partOf = some run.request.subject.label := by
    obtain ⟨l, hl⟩ : ∃ l, o.metadata.label? Marks.partOf = some l := ⟨_, rendered.label?_partOf⟩
    rw [hl, hkind, Option.some.injEq]
    exact by_contra fun hne => hlabel ⟨l, hl, hne⟩
  simp only [not_forall, not_not] at hdeletable
  obtain ⟨t, ht, hgroup, hkind⟩ := hdeletable
  have howned := rendered.isOwnedByType howner names
  rw [← same] at howned
  have hselected : Selector.selects ((plain name engine).selector run.request.subject) (o.metadata.labels.getD []) :=
    (plain_selects_iff (by rw [same]; exact names)).mpr hpartOf
  rcases hpass.decided k o ⟨ho, ⟨t, ht, hgroup, hkind, options_acceptsType_of_removable hgroup hkind hremovable rfl⟩,
    by rw [listable]; rfl, by rw [options, Option.all_some]; exact hselected, hlive⟩ with hgone | ⟨accepted, haccepts, htold⟩
  · exact hgone
  · rw [options_acceptsObject_of_owned (by simpa using hmanaged) howned, plain_acceptsObject_eq_ok] at haccepts
    have htrue := CurrentState.isStale_of_stamped_otherwise rendered.annotations other haccepts
    rw [PassOptions.told_of_ofObject rendered.key] at htold
    exact hpass.sweeps.targets k (htold htrue)

end

/-- After a deployment and a collection for one render, and again for a render of another release or
    generation, the last collection changed nothing that was just deployed: apart from what it took along
    with an owner, and from objects whose key another object told in place of its own. What only the first
    render had is gone or terminating, unless it is exempt. -/
theorem reconciles_converge {name : String} {engine : Engine} {w : World} {q₁ q₂ : Request} {a b c d : Run}
    (calm : w.Calm) (listable : w.cluster.listRefusals = []) (willing : w.cluster.deleteRefusals = [])
    (full₁ : q₁.generated = true) (full₂ : q₂.generated = true) (names : q₁.subject.resource.WellNamed)
    (same : q₂.subject.resource = q₁.subject.resource)
    (other : q₁.release ≠ q₂.release ∨ q₁.subject.generation ≠ q₂.subject.generation)
    (deploy₁ : deploy.run ⟨w, q₁⟩ = (.ok (), a)) (collect₁ : (collect (.plain name engine)).run a = (.ok (), b))
    (deploy₂ : deploy.run ⟨b.world, q₂⟩ = (.ok (), c)) (collect₂ : (collect (.plain name engine)).run c = (.ok (), d)) :
    (∀ k ∈ b.world.applied c.world,
      d.world.cluster.object? k = c.world.cluster.object? k ∨
        (∃ k₀, c.world.cluster.object? k₀ ≠ none ∧ d.world.cluster.object? k₀ = none ∧
          TransGen c.world.cluster.Owns k₀ k) ∨
        ∃ k₀ o₀, k₀ ≠ k ∧ (plain name engine).Collects c.request c.world k₀ o₀ ∧ k₀.told o₀ = k) ∧
      ∀ k ∈ w.applied a.world, k ∉ b.world.applied c.world → ∀ o, d.world.cluster.object? k = some o →
        o.metadata.isTerminating = true ∨ (plain name engine).Exempts q₁ w k o := by
  obtain ⟨owner₁, howner₁, hdeploy₁, resources₁, hrequest₁⟩ := deploy_ok calm deploy₁
  have hset₁ := hdeploy₁.settings
  have hfull₁ : a.request.generated = true := by rw [hrequest₁]; exact full₁
  obtain ⟨hset₂, T₁, hpass₁⟩ := collect_ok (hset₁.calm calm) (hset₁.cluster.deleteRefusals.trans willing)
    (collect_of_generated hfull₁ collect₁).1
  have hsetb := hset₁.trans hset₂
  obtain ⟨owner₂, howner₂, hdeploy₂, resources₂, hrequest₂⟩ := deploy_ok (by exact hsetb.calm calm) deploy₂
  have hset := hsetb.trans hdeploy₂.settings
  have hfull₂ : c.request.generated = true := by rw [hrequest₂]; exact full₂
  have hwilling := hset.cluster.deleteRefusals.trans willing
  obtain ⟨-, -, huid⟩ := Instance.controllerReference?_eq_some howner₂
  refine ⟨fun k hk => ?_, fun k hk hk₂ o ho => ?_⟩
  · obtain ⟨m, -, o, ho, hr⟩ := hdeploy₂.applied k hk
    have hr : Rendered c.request owner₂ m k o := by
      rw [hrequest₂]
      exact rendered_withResources.mpr hr
    exact collect_spares (hset.calm calm) hwilling hfull₂ collect₂ ho hr (by rw [hrequest₂, huid]; rfl)
  · obtain ⟨m, -, o₁, ho₁, hr⟩ := hdeploy₁.applied k hk
    obtain ⟨-, T₂, hpass₂⟩ := collect_ok (hset.calm calm) hwilling (collect_of_generated hfull₂ collect₂).1
    -- The object comes from the first deployment; a mark that it got since then makes it terminating.
    obtain ⟨o₂, ho₂, hpersists₂⟩ := hpass₂.sweeps.before ho
    obtain ⟨o₃, ho₃, hpersists₁⟩ := hpass₁.sweeps.before ((hdeploy₂.kept k hk₂).symm.trans ho₂)
    cases ho₁.symm.trans ho₃
    rcases hpersists₂ with rfl | hmarked
    · rcases hpersists₁ with rfl | hmarked
      · by_cases hlive : o.metadata.isTerminating = false
        · have hleft := collect_takes (hset.calm calm) (hset.cluster.listRefusals.trans listable) hwilling hfull₂
            collect₂ ho₂ hlive hr howner₁ names (by rw [hrequest₂]; exact same) (by rw [hrequest₂]; exact other)
          rw [Exempts, hset.deletable] at hleft
          exact hleft.imp_left fun hgone => (hgone o ho).2
        · exact .inl (by simpa using hlive)
      · exact .inl hmarked.of_some.2.2
    · exact .inl hmarked.of_some.2.2

/-! ### Two renders of a dashboard -/

section Sample
open Sample

/-- Both maps are rendered first, and one of them again. -/
theorem reconciles_converge_sample :
    let a := deployed { cluster := cluster [] } (render "d" 1 ["kept", "left"])
    let b := collected a
    let c := deployed b.world (render "d" 2 ["kept"])
    let d := collected c
    configMapKey "left" ∈ World.applied { cluster := cluster [] } a.world ∧
      configMapKey "left" ∉ b.world.applied c.world ∧
        ∀ o, d.world.cluster.object? (configMapKey "left") = some o → o.metadata.isTerminating = true ∨
          collector.Exempts (render "d" 1 ["kept", "left"]) { cluster := cluster [] } (configMapKey "left") o := by
  intro a b c d
  have calm : World.Calm { cluster := cluster [] } := ⟨rfl, rfl⟩
  have same : (render "d" 2 ["kept"]).subject.resource = (render "d" 1 ["kept", "left"]).subject.resource := rfl
  have other : (render "d" 1 ["kept", "left"]).release ≠ (render "d" 2 ["kept"]).release ∨
      (render "d" 1 ["kept", "left"]).subject.generation ≠ (render "d" 2 ["kept"]).subject.generation :=
    .inr (by decide)
  obtain ⟨hdeploy₁, hcollect₁, hdeploy₂, hcollect₂, hleft, hleft₂⟩ :
      (deploy.run ⟨{ cluster := cluster [] }, render "d" 1 ["kept", "left"]⟩).1.isOk = true ∧
        ((collect collector).run a).1.isOk = true ∧ (deploy.run ⟨b.world, render "d" 2 ["kept"]⟩).1.isOk = true ∧
          ((collect collector).run c).1.isOk = true ∧
            configMapKey "left" ∈ World.applied { cluster := cluster [] } a.world ∧
              configMapKey "left" ∉ b.world.applied c.world := by
    decide +kernel
  have hdeploy₁ : deploy.run ⟨{ cluster := cluster [] }, render "d" 1 ["kept", "left"]⟩ = (.ok (), a) :=
    Computation.eq_ok_of_isOk hdeploy₁
  have hcollect₁ : (collect collector).run a = (.ok (), b) := Computation.eq_ok_of_isOk hcollect₁
  have hdeploy₂ : deploy.run ⟨b.world, render "d" 2 ["kept"]⟩ = (.ok (), c) := Computation.eq_ok_of_isOk hdeploy₂
  have hcollect₂ : (collect collector).run c = (.ok (), d) := Computation.eq_ok_of_isOk hcollect₂
  have hconverge := reconciles_converge calm rfl rfl rfl rfl dashboards_wellNamed same other hdeploy₁ hcollect₁
    hdeploy₂ hcollect₂
  exact ⟨hleft, hleft₂, hconverge.2 _ hleft hleft₂⟩

/-- An object that was renamed in place makes the collector delete the one that now has its name: nothing
    that owns it is gone, and it was just deployed. -/
theorem renamed_object_takes_deployed :
    let w : World := { cluster := (cluster []).put (configMapKey "old") (rendered "settings" "1") }
    let a := deployed w (render "d" 1 [])
    let b := collected a
    let c := deployed b.world (render "d" 2 ["settings"])
    let d := collected c
    (deploy.run ⟨w, render "d" 1 []⟩ = (.ok (), a) ∧ (collect collector).run a = (.ok (), b) ∧
      deploy.run ⟨b.world, render "d" 2 ["settings"]⟩ = (.ok (), c) ∧ (collect collector).run c = (.ok (), d)) ∧
      configMapKey "settings" ∈ b.world.applied c.world ∧
        d.world.cluster.object? (configMapKey "settings") ≠ c.world.cluster.object? (configMapKey "settings") ∧
          ¬∃ k₀, d.world.cluster.object? k₀ = none ∧ TransGen c.world.cluster.Owns k₀ (configMapKey "settings") := by
  intro w a b c d
  obtain ⟨hdeploy₁, hcollect₁, hdeploy₂, hcollect₂, happlied, hchanged, hunowned⟩ :
      (deploy.run ⟨w, render "d" 1 []⟩).1.isOk = true ∧ ((collect collector).run a).1.isOk = true ∧
        (deploy.run ⟨b.world, render "d" 2 ["settings"]⟩).1.isOk = true ∧ ((collect collector).run c).1.isOk = true ∧
          configMapKey "settings" ∈ b.world.applied c.world ∧
            d.world.cluster.object? (configMapKey "settings") ≠ c.world.cluster.object? (configMapKey "settings") ∧
              ∀ p ∈ c.world.cluster.objects, ∀ p' ∈ c.world.cluster.objects, p'.1 = configMapKey "settings" →
                ∀ r ∈ p'.2.metadata.owners, p.2.metadata.uid ≠ some r.uid := by
    decide +kernel
  refine ⟨⟨Computation.eq_ok_of_isOk hdeploy₁, Computation.eq_ok_of_isOk hcollect₁,
    Computation.eq_ok_of_isOk hdeploy₂, Computation.eq_ok_of_isOk hcollect₂⟩, happlied, hchanged, ?_⟩
  rintro ⟨k₀, -, hchain⟩
  obtain ⟨x, -, o, o', ho, ho', r, hr, huid⟩ := TransGen.tail'_iff.mp hchain
  exact hunowned (x, o) (Cluster.mem_objects.mpr ho) _ (Cluster.mem_objects.mpr ho') rfl r hr huid

end Sample
end Action
end PlatformOperator
