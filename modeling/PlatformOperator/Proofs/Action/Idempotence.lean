import PlatformOperator.Proofs.Action.Collect
import PlatformOperator.Proofs.Collector.Settled

/-! Garbage collection is idempotent: once a collection ended well, the next one for the same request only lists. -/

namespace PlatformOperator

namespace GarbageCollector
open PassOptions
variable {g : GarbageCollector} {r : Request} {w w' : World}

/-- Whether an object is accepted does not depend on whether and when it was marked as terminating. -/
def Timeless (g : GarbageCollector) : Prop := ∀ (current : CurrentState) (o : Object) (t : Option Timestamp),
  g.acceptsObject current (o.mapMeta fun m => { m with deletionTimestamp := t }) = g.acceptsObject current o

/-- Stale objects stay stale when they are deleted. -/
theorem plain_timeless (name : String) (engine : Engine) : (plain name engine).Timeless := fun _ _ _ => rfl

theorem Timeless.options (timeless : g.Timeless) (subject : Instance) (current : CurrentState) :
    (g.options subject current).Timeless := by
  intro o now
  have haccepted : g.acceptsObject current (o.markedAt now) = g.acceptsObject current o := timeless current o (some now)
  simp only [GarbageCollector.options, haccepted]
  rfl

theorem tally_count (f : Tally → Tally) (w : World) : g.tally (g.count f w) = f (g.tally w) := by
  simp only [tally, count, Dict.get?_insert, if_true, Option.getD_some]

/-- A collection that ended well leaves nothing to do about the types that can be deleted. -/
theorem collect_rests (timeless : g.Timeless) (calm : w.Calm) (willing : w.cluster.deleteRefusals = [])
    (own : w.cluster.OwnKeys) (h : g.collect r w = (.ok (), w')) :
    (g.options r.subject (currentState r)).Rests w'.deletable w'.cluster := by
  rw [(collect_ok calm willing h).1.deletable]
  rw [collect_calm calm] at h
  obtain ⟨deleted, w₁, hpass, h⟩ := Computation.bind_eq_ok.mp h
  cases h
  show Rests _ _ w₁.cluster
  exact Engine.passTypes_rests (timeless.options _ _) (refreshed_sameSettings g r w |>.calm calm) willing own
    (Op.mapError_eq_ok.mp hpass)

/-- Where nothing is left to do, a collection is a cycle that deletes nothing. -/
theorem collect_of_rests (calm : w.Calm)
    (h : (g.options r.subject (currentState r)).Rests w.deletable w.cluster) :
    ∃ w' calls, g.collect r w = (.ok (), w') ∧ w'.cluster = w.cluster ∧
      g.tally w' = { g.tally w with cycles := (g.tally w).cycles + 1 } ∧
        w'.calls = w.calls ++ calls ∧ ∀ call ∈ calls, call.verb ≠ "delete" := by
  obtain ⟨calls, hcalls, hpass⟩ := Engine.passTypes_of_rests (g.propagation.getD g.engine.propagation) 0
    (refreshed_sameSettings g r w |>.calm calm) h
  rw [collect_calm calm, Computation.bind_ok (Op.mapError_eq_ok.mpr hpass)]
  refine ⟨_, .discover :: .rules (g.rulesNamespace.getD r.config.applicationsNamespace) :: calls, rfl, rfl, ?_, ?_,
    ?_⟩
  · rw [tally_count]
    have hcounted := tally_count (g := g) (fun t => { t with cycles := t.cycles + 1 }) w
    exact congrArg (fun t : Tally => { t with deleted := t.deleted + 0 }) hcounted
  · show ((w.calls ++ [_]) ++ [_]) ++ calls = _
    simp
  · refine List.forall_mem_cons.mpr ⟨by decide, List.forall_mem_cons.mpr ⟨by simp [Call.verb], fun call hcall => ?_⟩⟩
    rw [hcalls call hcall]
    decide

end GarbageCollector

namespace Action

/-- After a collection that ended well, the next one for the same request ends well too, leaves the cluster as it
    is, deletes nothing and counts no deletion. -/
theorem collect_idempotent (g : GarbageCollector) {run run' : Run} (calm : run.world.Calm)
    (willing : run.world.cluster.deleteRefusals = []) (own : run.world.cluster.OwnKeys) (timeless : g.Timeless)
    (generated : run.request.generated = true) (h : (collect g).run run = (.ok (), run')) :
    ∃ run'' calls, (collect g).run run' = (.ok (), run'') ∧ run''.request = run.request ∧
      run''.world.cluster = run'.world.cluster ∧
      g.tally run''.world = { g.tally run'.world with cycles := (g.tally run'.world).cycles + 1 } ∧
      run''.world.calls = run'.world.calls ++ calls ∧ ∀ call ∈ calls, call.verb ≠ "delete" := by
  obtain ⟨hcollect, hrequest⟩ := collect_of_generated generated h
  have hset := (GarbageCollector.collect_ok calm willing hcollect).1
  have hrests := GarbageCollector.collect_rests timeless calm willing own hcollect
  obtain ⟨w'', calls, hagain, hcluster, htally, hcalls, hnone⟩ :=
    GarbageCollector.collect_of_rests (hset.calm calm) hrests
  refine ⟨⟨w'', run'.request⟩, calls, ?_, hrequest, hcluster, htally, hcalls, hnone⟩
  rw [collect_run_of_generated g (hrequest ▸ generated), RunM.ofOp_eq_ok, hrequest]
  exact ⟨hagain, rfl⟩

end Action

open Sample in
/-- The stale map is deleted in the first run, the second one deletes none. -/
theorem Action.collect_idempotent_sample :
    (collector).Timeless ∧ ∃ run' run'' calls, (collect collector).run Sample.run = (.ok (), run') ∧
      (collect collector).run run' = (.ok (), run'') ∧ run''.request = Sample.run.request ∧
      run''.world.cluster = run'.world.cluster ∧
      collector.tally run''.world =
        { collector.tally run'.world with cycles := (collector.tally run'.world).cycles + 1 } ∧
      run''.world.calls = run'.world.calls ++ calls ∧ ∀ call ∈ calls, call.verb ≠ "delete" := by
  have hrun := Computation.eq_ok_of_isOk (x := (collect collector).run) (s := Sample.run) (by decide +kernel)
  have timeless : collector.Timeless := GarbageCollector.plain_timeless _ _
  obtain ⟨run'', calls, h⟩ := collect_idempotent collector ⟨rfl, rfl⟩ rfl (by decide +kernel) timeless rfl hrun
  exact ⟨timeless, _, run'', calls, hrun, h⟩

end PlatformOperator
