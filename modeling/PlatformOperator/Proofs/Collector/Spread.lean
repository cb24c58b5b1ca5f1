import PlatformOperator.Proofs.Action.Collect
import PlatformOperator.Proofs.Cluster.Calls
import PlatformOperator.Proofs.World.Quiet

/-! A collection, wherever it ends: it may stop at any call that fails, but whatever it did to the cluster comes
    from deletions of keys that accepted objects tell (`GarbageCollector.collect_preserves`). -/

namespace PlatformOperator
open Computation Op

namespace PassOptions

/-- The key is one that an accepted object tells. -/
def Tells (options : PassOptions) (c : Cluster) (k : Key) : Prop :=
  ∃ k₀ o, c.object? k₀ = some o ∧ options.acceptsObject o = .ok true ∧ k₀.told o = k

/-- Since `c`, nothing but keys that accepted objects tell was swept. -/
def Spreads (options : PassOptions) (policy : Propagation) (c c' : Cluster) : Prop :=
  ∃ T, c.Sweeps policy T c' ∧ ∀ k, T k → options.Tells c k

end PassOptions

namespace Engine
open PassOptions
variable {options : PassOptions} {policy : Propagation} {c : Cluster} {t : CatalogType} {w w' : World}

theorem spreads_refl : options.Spreads policy c c := ⟨_, .refl policy c, fun _ => False.elim⟩

theorem deleteObject_preserves {o : Object}
    (htold : options.Tells c (.ofResource t.apiResource o.metadata.namespace o.name)) :
    (deleteObject t o policy).Preserves (options.Spreads policy c) := by
  have hdelete : (World.delete t.apiResource o.metadata.namespace o.name policy).Preserves
      (options.Spreads policy c) := by
    intro w hw
    rcases World.delete_quiet hw.quiet t.apiResource o.metadata.namespace o.name policy with
      ⟨e, _, hcall⟩ | ⟨c', hc', hcall⟩
    · rw [hcall]
      exact ⟨hw.quiet, hw.cluster⟩
    · rw [hcall]
      obtain ⟨T, hs, hT⟩ := hw.cluster
      refine ⟨hw.quiet, _, hs.trans (Cluster.delete_ok hc'), ?_⟩
      rintro k (hk | rfl)
      · exact hT k hk
      · exact htold
  refine hdelete.outcome.bind fun deleted => ?_
  rcases deleted with e | _
  · dsimp only
    split
    · exact .pure _
    · exact .throw _
  · exact .pure _

/-- Objects that are accepted at their turn told their keys from the start if they were there. -/
theorem passObjects_preserves : ∀ {os : List Object} {n : Nat},
    (∀ o ∈ os, o.metadata.isTerminating = false → options.acceptsObject o = .ok true →
      options.Tells c (.ofResource t.apiResource o.metadata.namespace o.name)) →
    (passObjects options policy t os n).Preserves (options.Spreads policy c)
  | [], _, _ => .pure _
  | o :: os, n, h => by
    have hrest : ∀ n, (passObjects options policy t os n).Preserves (options.Spreads policy c) := fun n =>
      passObjects_preserves fun o ho => h o (List.mem_cons_of_mem _ ho)
    rw [passObjects]
    cases haccepts : options.acceptsObject o with
    | error e => exact .throw _
    | ok accepted =>
      dsimp only
      split
      · rename_i hdue
        simp only [Bool.and_eq_true, Bool.not_eq_true'] at hdue
        obtain ⟨rfl, hlive⟩ := hdue
        exact (deleteObject_preserves (h o List.mem_cons_self hlive haccepts)).bind fun _ => hrest _
      · exact hrest _

/-- A live object that is listed after deletions was there before them. -/
theorem tells_of_listed {c' : Cluster} {os : List Object} {o : Object} (hspreads : options.Spreads policy c c')
    (hlist : c'.list t.apiResource none options.selector = .ok os) (ho : o ∈ os)
    (hlive : o.metadata.isTerminating = false) (haccepts : options.acceptsObject o = .ok true) :
    options.Tells c (.ofResource t.apiResource o.metadata.namespace o.name) := by
  obtain ⟨T, hs, -⟩ := hspreads
  rw [Cluster.list] at hlist
  split at hlist
  · cases hlist
  cases hlist
  obtain ⟨⟨k₀, o'⟩, hfound, rfl⟩ := List.mem_map.mp ho
  obtain ⟨hstored, hselected⟩ := List.mem_filter.mp hfound
  simp only [Option.isNone_none, Bool.true_or, Bool.and_true, Bool.and_eq_true, beq_iff_eq] at hselected
  obtain ⟨⟨hgroup, hkind⟩, -⟩ := hselected
  obtain ⟨o₀, ho₀, rfl | hdeleted⟩ := hs.before (Cluster.mem_objects.mp hstored)
  · refine ⟨k₀, o', ho₀, haccepts, ?_⟩
    rw [Key.told, Key.ofResource, hgroup, hkind]
  · have hterm := hdeleted.of_some.2.2
    rw [hlive] at hterm
    cases hterm

/-- Listing changes no object, and gives what the cluster lists or nothing. -/
theorem listObjects_quiet (quiet : w.Quiet) (options : PassOptions) (t : CatalogType) :
    (listObjects options t w).2.Quiet ∧ (listObjects options t w).2.cluster = w.cluster ∧
      ∀ os, (listObjects options t w).1 = .ok os →
        os = [] ∨ w.cluster.list t.apiResource none options.selector = .ok os := by
  have hlist : ∃ r, World.list t.apiResource none options.selector w =
      (r, w.struck (.list t.apiResource none options.selector)) ∧
        ∀ os, r = .ok os → w.cluster.list t.apiResource none options.selector = .ok os := by
    rcases World.list_quiet quiet t.apiResource none options.selector with ⟨e, hcall⟩ | hcall
    · exact ⟨_, hcall, fun _ h => by cases h⟩
    · exact ⟨_, hcall, fun _ h => h⟩
  obtain ⟨r, hcall, hr⟩ := hlist
  rw [listObjects, Computation.bind_ok (outcome_eq hcall)]
  rcases r with e | os'
  · dsimp only
    split
    · exact ⟨quiet, rfl, fun os h => by cases h; exact .inl rfl⟩
    · exact ⟨quiet, rfl, fun os h => by cases h⟩
  · exact ⟨quiet, rfl, fun os h => by cases h; exact .inr (hr _ rfl)⟩

theorem passTypes_preserves {ts : List CatalogType} {n : Nat} :
    (passTypes options policy ts n).Preserves (options.Spreads policy c) := by
  induction ts generalizing n with
  | nil => exact .pure _
  | cons t ts ih =>
    rw [passTypes]
    rcases options.acceptsType t with e | accepted
    · exact .throw _
    cases accepted with
    | false => exact ih
    | true =>
      intro w hw
      obtain ⟨quiet, hsame, hos⟩ := listObjects_quiet hw.quiet options t
      refine bind_ends ⟨quiet, by rw [hsame]; exact hw.cluster⟩ fun os w₁ hlist hw₁ => ?_
      refine Moves.bind (passObjects_preserves fun o ho hlive haccepts => ?_) (fun _ => ih) w₁ hw₁
      rcases hos os (by rw [hlist]) with rfl | hlisted
      · cases ho
      · exact tells_of_listed hw.cluster hlisted ho hlive haccepts

theorem run_preserves (e : Engine) :
    (e.run options).Preserves (options.Spreads (options.propagation.getD e.propagation) c) :=
  Moves.bind (fun _ hw => hw) fun _ => passTypes_preserves

theorem refresh_preserves {Q : Cluster → Prop} (e : Engine) («namespace» : String) :
    (e.refresh «namespace»).Preserves Q :=
  Moves.bind World.discover_preserves.mapError fun _ =>
    Moves.bind World.accessRules_preserves.mapError fun _ _ hw => ⟨hw.quiet, hw.cluster⟩

end Engine

/-- All that a collection changes comes from keys that accepted objects told when it began. -/
theorem GarbageCollector.collect_preserves (g : GarbageCollector) (r : Request) (c : Cluster) :
    (g.collect r).Preserves ((g.options r.subject (currentState r)).Spreads
      (g.propagation.getD g.engine.propagation) c) :=
  Moves.bind (fun _ hw => ⟨hw.quiet, hw.cluster⟩) fun _ =>
    Moves.bind (g.engine.refresh_preserves _).mapError fun _ =>
      Moves.bind (g.engine.run_preserves).mapError fun _ _ hw => ⟨hw.quiet, hw.cluster⟩

end PlatformOperator
