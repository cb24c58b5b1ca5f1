import PlatformOperator.Proofs.Reconciler.Lifecycle

/-! The finalizers of an instance that is let go. Its last patch replaces the whole list by what the instance held
    when it was read, so what others did to the list while the finalizing pipeline ran is undone: a finalizer they
    added is lost, and one they removed comes back. -/

namespace PlatformOperator

namespace World
variable {r : ApiResource} {«namespace» : Option String} {name : String} {patch : Json} {w : World}

/-- Whatever arrives with it and whatever is due, a merge patch fails and leaves the cluster alone, or does what the
    cluster does. -/
theorem mergePatch_cases (w : World) :
    let begun := (begin (.mergePatch r «namespace» name patch) w).2
    (∃ e clock, mergePatch r «namespace» name patch w = (.error e, { begun with clock })) ∨
      ∃ o c, begun.cluster.mergePatch begun.clock.next r «namespace» name patch = .ok (o, c) ∧
        mergePatch r «namespace» name patch w = (.ok o, { begun with cluster := c, clock := begun.clock.tick }) := by
  intro begun
  rcases hbegin : begin (.mergePatch r «namespace» name patch) w with ⟨e | _, w₁⟩
  · obtain rfl : begun = w₁ := congrArg Prod.snd hbegin
    exact .inl ⟨e, begun.clock, Computation.bind_error hbegin⟩
  · obtain rfl : begun = w₁ := congrArg Prod.snd hbegin
    have hbind :=
      Computation.bind_ok (f := fun _ => change fun now c => c.mergePatch now r «namespace» name patch) hbegin
    rcases change_cases (fun now c => c.mergePatch now r «namespace» name patch) begun with ⟨e, h⟩ | ⟨o, c, hc, h⟩
    · exact .inl ⟨e, begun.clock.tick, hbind.trans h⟩
    · exact .inr ⟨o, c, hc, hbind.trans h⟩

end World

namespace Reconciler
open Cluster
variable {r : Reconciler} {subject : Instance} {w w₁ : World} {p : Pipeline} {request : Request} {o : Object}
  {fs gs : List String}

/-- The finalizers of others. -/
def foreign (fs : List String) : List String := fs.filter (· != Marks.finalizer)

/-- The finalizers of a terminating instance once the platform's is taken from it, if that leaves any. -/
def remaining (fs : List String) : Option (List String) := if foreign fs = [] then none else some (foreign fs)

theorem remaining_eq_iff : remaining fs = remaining gs ↔ foreign fs = foreign gs := by
  unfold remaining
  constructor
  · intro h
    split at h <;> split at h
    · rename_i hfs hgs
      exact hfs.trans hgs.symm
    · cases h
    · cases h
    · exact Option.some.inj h
  · intro h
    rw [h]

/-- The finalizers of the object at `k`, if there is one. -/
def held (c : Cluster) (k : Key) : Option (List String) := (c.object? k).map (·.metadata.finalizerList)

/-- The call that replaces the finalizers of an instance. -/
def replacingFinalizers (r : Reconciler) (subject : Instance) (fs : List String) : Call :=
  .mergePatch r.resource subject.metadata.namespace subject.name
    (.ofPairs [("metadata", .ofPairs [("finalizers", .arr (fs.map .str))])])

/-- What is stored immediately before the patch that lets the instance go, if the finalizing pipeline starts from the
    request: objects may arrive before this patch too. -/
def patched (r : Reconciler) (p : Pipeline) (subject : Instance) (request : Request) (w : World) : Cluster :=
  (World.begin (r.replacingFinalizers subject (foreign subject.metadata.finalizerList))
    (p.run ⟨w, request⟩).2.world).2.cluster

/-- Once the finalizing pipeline ended or stopped, what is left to do is the patch. -/
theorem delete_of_finalized (hheld : Marks.finalizer ∈ subject.metadata.finalizerList) (hp : r.finalizer = some p)
    (hrequest : r.request subject w = (.ok request, w₁))
    (hended : ¬∃ c, (p.run ⟨w₁, request⟩).1 = .error (.retryable c)) :
    r.delete subject w =
      r.updateFinalizers subject (foreign subject.metadata.finalizerList) (p.run ⟨w₁, request⟩).2.world := by
  have hfinal : finalized subject (p.run ⟨w₁, request⟩).1 = .ok () := by
    rcases hrun : (p.run ⟨w₁, request⟩).1 with (c | c) | _
    · rfl
    · exact absurd ⟨c, hrun⟩ hended
    · rfl
  have hfinalize := finalize_of_request (p := p) hrequest
  rw [hfinal] at hfinalize
  rw [delete_of_held hheld hp]
  exact Computation.bind_ok hfinalize

/-- A patch of the finalizers fails and leaves what is stored when it is served, or it leaves just the new ones. -/
theorem updateFinalizers_cases (hstored : (World.begin (r.replacingFinalizers subject fs) w).2.cluster.object?
      (subject.key r.resource) = some o) (hterm : o.metadata.isTerminating = true) :
    (∃ e, (r.updateFinalizers subject fs w).1 = .error (.updateFinalizers subject.name e) ∧
        (r.updateFinalizers subject fs w).2.cluster =
          (World.begin (r.replacingFinalizers subject fs) w).2.cluster) ∨
      (r.updateFinalizers subject fs w).1 = .ok () ∧
        held (r.updateFinalizers subject fs w).2.cluster (subject.key r.resource) =
          if fs = [] then none else some fs := by
  rcases World.mergePatch_cases (r := r.resource) w with ⟨e, _, hpatch⟩ | ⟨o', c, hc, hpatch⟩
  · have hupdate : r.updateFinalizers subject fs w = _ := Computation.bind_error (Op.mapError_eq hpatch)
    rw [hupdate]
    exact .inl ⟨e, rfl, rfl⟩
  · have hupdate : r.updateFinalizers subject fs w = _ := Computation.bind_ok (Op.mapError_eq hpatch)
    obtain ⟨o₁, ho₁, hlist, hleft⟩ := mergePatch_lets_go hc
    cases hstored.symm.trans ho₁
    rw [hupdate]
    refine .inr ⟨rfl, ?_⟩
    show (c.object? (.ofResource r.resource subject.metadata.namespace subject.name)).map _ = _
    rw [hleft]
    by_cases hnil : fs = []
    · rw [if_pos ⟨hnil, hterm⟩, if_pos hnil, Option.map_none]
    · rw [if_neg fun h => hnil h.1, if_neg hnil, Option.map_some, hlist]

/-- However others change a terminating instance while its finalizing pipeline runs, the patch that lets it go fails
    and changes nothing, or leaves the finalizers that were read at the start without the platform's. These are the
    ones stored before the patch without the platform's just if the finalizers of others are still those read. -/
theorem delete_leaves_finalizers_read (hheld : Marks.finalizer ∈ subject.metadata.finalizerList)
    (hp : r.finalizer = some p) (hrequest : r.request subject w = (.ok request, w₁))
    (hended : ¬∃ c, (p.run ⟨w₁, request⟩).1 = .error (.retryable c))
    (hstored : (r.patched p subject request w₁).object? (subject.key r.resource) = some o)
    (hterm : o.metadata.isTerminating = true) :
    (∃ e, (r.delete subject w).1 = .error (.updateFinalizers subject.name e) ∧
        (r.delete subject w).2.cluster = r.patched p subject request w₁) ∨
      (r.delete subject w).1 = .ok () ∧
        held (r.delete subject w).2.cluster (subject.key r.resource) = remaining subject.metadata.finalizerList ∧
        (held (r.delete subject w).2.cluster (subject.key r.resource) = remaining o.metadata.finalizerList ↔
          foreign o.metadata.finalizerList = foreign subject.metadata.finalizerList) := by
  rw [delete_of_finalized hheld hp hrequest hended]
  rcases updateFinalizers_cases hstored hterm with hfailed | ⟨hok, hleft⟩
  · exact .inl hfailed
  · refine .inr ⟨hok, hleft, ?_⟩
    rw [hleft]
    exact remaining_eq_iff.trans eq_comm

namespace Sample

/-- A terminating dashboard that holds the finalizers. -/
def leaving (fs : List String) : Instance where
  resource := Instance.dashboards
  metadata := { name := some "d", uid := some "d", deletionTimestamp := some ⟨0, 0⟩, finalizers := some fs }
  devFlags := none
  status := none

def leavingObject (fs : List String) : Object := { created with metadata := (leaving fs).metadata }

/-- The dashboard as it is read: `a` holds it besides the platform. -/
def read : Instance := leaving [Marks.finalizer, "a"]

/-- Right before the patch another party stores other finalizers. -/
def interfered (fs : List String) : World where
  cluster := Cluster.empty.insert (leavingObject [Marks.finalizer, "a"])
  arrivals := [⟨⟨"merge_patch", none, none⟩, 0, leavingObject fs⟩]

def cleaning : Pipeline := ⟨"cleanup", [telling]⟩

/-- The run that the finalizing pipeline starts from. -/
def cleaningFrom (w : World) : Run :=
  let (request, clock) :=
    Request.start ⟨"apps", none⟩ finalizing.release read (Condition.provisioningSucceeded :: finalizing.dependents)
      w.clock
  ⟨{ w with clock }, request⟩

/-- The pipeline of the reconciler runs while another party leaves the dashboard with the finalizers: they are there
    right before the patch, and after it the only one that was read is left, not what a removal of the platform's
    leaves of them. -/
def Overwritten (fs : List String) : Prop :=
  let run := cleaningFrom (interfered fs)
  finalizing.request read (interfered fs) = (.ok run.request, run.world) ∧ (cleaning.run run).1.isOk = true ∧
    held (finalizing.patched cleaning read run.request run.world) createdKey = some fs ∧
    (finalizing.delete read (interfered fs)).1.isOk = true ∧
    held (finalizing.delete read (interfered fs)).2.cluster createdKey = some ["a"] ∧ remaining fs ≠ some ["a"]

end Sample

open Reconciler.Sample in
/-- A finalizer that is added while the pipeline runs is lost, one that is removed comes back. -/
theorem finalizers_of_others_overwritten :
    Overwritten [Marks.finalizer, "a", "b"] ∧ Overwritten [Marks.finalizer] := by
  constructor <;> exact ⟨rfl, by decide +kernel, by decide +kernel, by decide +kernel, by decide +kernel, by decide⟩

open Reconciler.Sample in
theorem delete_leaves_finalizers_read_sample :
    let w := interfered [Marks.finalizer, "a", "b"]
    let run := cleaningFrom w
    finalizing.request read w = (.ok run.request, run.world) ∧
      (¬∃ c, (cleaning.run run).1 = .error (.retryable c)) ∧
      (finalizing.patched cleaning read run.request run.world).object? createdKey =
        some (leavingObject [Marks.finalizer, "a", "b"]) ∧
      held (finalizing.delete read w).2.cluster createdKey = some ["a"] := by
  intro w run
  have hrequest : finalizing.request read w = (.ok run.request, run.world) := rfl
  have hended : ¬∃ c, (cleaning.run run).1 = .error (.retryable c) := by
    rintro ⟨c, hc⟩
    have hok : (cleaning.run run).1.isOk = true := by decide +kernel
    rw [hc] at hok
    cases hok
  have hstored : (finalizing.patched cleaning read run.request run.world).object? createdKey =
      some (leavingObject [Marks.finalizer, "a", "b"]) := by decide +kernel
  refine ⟨hrequest, hended, hstored, ?_⟩
  rcases delete_leaves_finalizers_read (by decide) rfl hrequest hended hstored rfl with ⟨e, hfailed, -⟩ | ⟨-, hleft, -⟩
  · have hok : (finalizing.delete read w).1.isOk = true := by decide +kernel
    rw [hfailed] at hok
    cases hok
  · exact hleft

end Reconciler
end PlatformOperator
