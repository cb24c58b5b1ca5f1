import PlatformOperator.Proofs.Reconciler.Undisturbed
import PlatformOperator.Proofs.World.Sequence
import PlatformOperator.Proofs.World.Written

/-! The pipeline decides how a reconciliation ends. Its first failing action is the last one that runs, what was done
    up to then stays done, and the kind of its error reaches the status, the result and the policy for failures. -/

namespace PlatformOperator
open Computation

namespace Pipeline

theorem runAll_eq (as : List Action) : runAll as = inTurn (as.map (·.run)) := by
  induction as with
  | nil => rfl
  | cons a as ih => rw [runAll, ih, List.map_cons, inTurn]

end Pipeline

namespace Reconciler
open Condition
variable {r : Reconciler} {subject : Instance} {name : String} {«namespace» : Option String}
  {w w₁ w₂ w₃ w' : World} {config : ClusterConfig} {outcome : Except ActionError Unit} {run : Run} {s : PlatformStatus}
  {m : Manager} {clock : Clock} {generation : Int} {e : ActionError}

/-! ### The status -/

/-- The reason that a status gives for a failed run. -/
def failureReason (e : ActionError) : String := if e.isStop then reasonStopped else reasonError

theorem told_failure (generation : Int) (e : ActionError) :
    (told generation (.error e)).status = .false ∧ (told generation (.error e)).reason = some (failureReason e) ∧
      (told generation (.error e)).message = some e.cause.fullMessage := by
  cases e <;> exact ⟨rfl, rfl, rfl⟩

/-- The conditions tell how the run failed, unless that type is the one that follows the others. -/
theorem concluded_condition? (h : m.happy ≠ provisioningSucceeded) (generation : Int) (e : ActionError)
    (clock : Clock) :
    ∃ c, (concluded generation (.error e) m clock).1.condition? provisioningSucceeded = some c ∧
      c.status = .false ∧ c.reason = some (failureReason e) ∧ c.message = some e.cause.fullMessage := by
  have htype := told_type generation (.error e)
  obtain ⟨hhappy, -⟩ := Manager.sameTypes_set (told generation (.error e)) m clock
  have hne : provisioningSucceeded ≠ (m.set (told generation (.error e)) clock).1.happy := by
    rw [hhappy]
    exact h.symm
  obtain ⟨c, hc, hsame⟩ := Manager.set_condition? (m := m) (c := told generation (.error e))
    (by rw [htype]; exact h.symm) clock
  rw [htype] at hc
  obtain ⟨hstatus, hreason, hmessage⟩ := said_of_timeless hsame
  obtain ⟨htold, htold', htold''⟩ := told_failure generation e
  refine ⟨c, ?_, hstatus.trans htold, hreason.trans htold', hmessage.trans htold''⟩
  rw [concluded_eq]
  dsimp only
  rw [Manager.sort_condition?, Manager.recompute_condition? hne, hc]

/-- The status that a run of the pipeline makes, with its outcome. -/
def reported (subject : Instance) (outcome : Except ActionError Unit) (run : Run) : PlatformStatus :=
  statusOf subject.generation (concluded subject.generation outcome run.request.conditions run.world.clock).1
    (run.request.subject.status.getD {})

/-- The world in which that status is written. -/
def reporting (subject : Instance) (outcome : Except ActionError Unit) (run : Run) : World :=
  { run.world with clock := (concluded subject.generation outcome run.request.conditions run.world.clock).2 }

/-- The status after a run of the pipeline is `s`, and the patch that writes it ends in `w'`. -/
structure Reports (r : Reconciler) (subject : Instance) (outcome : Except ActionError Unit) (run : Run)
    (s : PlatformStatus) (w' : World) : Prop where
  status : reported subject outcome run = s
  written : World.patchStatus r.resource run.request.subject.metadata.namespace subject.name s.toJson
    (reporting subject outcome run) = (.ok (), w')

/-- The stored instance tells that the run failed, and how. -/
theorem Reports.told (h : r.Reports subject (.error e) run s w')
    (hhappy : run.request.conditions.happy ≠ provisioningSucceeded) :
    ∃ o phase c, w'.cluster.object? (.ofResource r.resource run.request.subject.metadata.namespace subject.name) =
        some o ∧ o.Shows phase s.conditions ∧ s.conditions.find? (·.type == provisioningSucceeded) = some c ∧
      c.status = .false ∧ c.reason = some (failureReason e) ∧ c.message = some e.cause.fullMessage := by
  obtain ⟨c, hc, hsays⟩ := concluded_condition? hhappy subject.generation e run.world.clock
  have hconditions : s.conditions =
      (concluded subject.generation (.error e) run.request.conditions run.world.clock).1.conditions := by
    rw [← h.status]
    exact statusOf_conditions _ _ _
  have hfound : s.conditions.find? (·.type == provisioningSucceeded) = some c := by
    rw [hconditions]
    exact hc
  have hsome : s.conditions ≠ [] := List.ne_nil_of_mem (List.mem_of_find?_eq_some hfound)
  obtain ⟨o, ho⟩ := World.patchStatus_stored h.written
  obtain ⟨phase, hphase⟩ : ∃ phase, s.phase = some phase := by
    rw [← h.status]
    exact ⟨_, statusOf_phase _ _ _⟩
  exact ⟨_, phase, c, ho, PlatformStatus.shows hphase hsome o, hfound, hsays⟩

/-- What the actions did stays. -/
theorem Reports.keeps (h : r.Reports subject outcome run s w') (quiet : run.world.Quiet) :
    (∀ k, k ≠ .ofResource r.resource run.request.subject.metadata.namespace subject.name →
      w'.cluster.object? k = run.world.cluster.object? k) ∧
      w'.memory = run.world.memory ∧ w'.journal = run.world.journal :=
  World.patchStatus_keeps (w := reporting subject outcome run) quiet h.written

/-- Actions that operate on the conditions leave it to the outcome to be told. -/
theorem readied_happy (operates : ∀ a ∈ r.pipeline.actions, a.run.Operates)
    (ended : r.pipeline.run (r.readied subject config w) = (outcome, run)) :
    run.request.conditions.happy ≠ provisioningSucceeded := by
  obtain ⟨-, ops, hops⟩ := readied_operates operates subject config w
  rw [ended] at hops
  obtain ⟨hhappy, -⟩ := Manager.types_after_start subject.conditions ready (provisioningSucceeded :: r.dependents)
    w.clock ops
  rw [hops, hhappy]
  exact provisioningSucceeded_ne_ready.symm

/-! ### The result -/

theorem writeStatus_of_written {t : Option String} {u : String}
    (h : World.patchStatus r.resource t u s.toJson w = (.ok (), w')) : r.writeStatus t u s w = (.ok (), w') :=
  bind_ok (Op.outcome_eq h)

/-- With its status written, the outcome of the pipeline is that of the whole. -/
theorem apply_reported (readies : r.Readies name «namespace» w subject w₁ w₂ w₃ config)
    (ended : r.pipeline.run (r.readied subject config w₃) = (outcome, run))
    (reports : r.Reports subject outcome run s w') :
    r.apply subject w₁ = (outcome.mapError .provision, w') := by
  have hprovision : (r.provision subject : Op ReconcileError _) w₂ =
      (.ok (run.request.subject, run.request.conditions, outcome), run.world) := by
    rw [provision_of_config readies.loaded, ended]
  have hwritten : r.writeStatus run.request.subject.metadata.namespace subject.name (reported subject outcome run)
      (reporting subject outcome run) = (.ok (), w') := by
    rw [reports.status]
    exact writeStatus_of_written reports.written
  unfold Reconciler.apply
  rw [bind_ok readies.ensured, bind_ok hprovision]
  refine (bind_ok (Op.timed_eq _)).trans ((bind_ok hwritten).trans ?_)
  cases outcome <;> rfl

theorem errorPolicy_of_stop {e : ReconcileError} (h : e.isStop = true) :
    r.errorPolicy name «namespace» e w = (.awaitChange, w) := by
  unfold errorPolicy
  rw [if_pos h]
  rfl

/-- A failure that is no stop counts, for the instance that it is a failure of, and the count makes the delay. -/
theorem errorPolicy_of_failure {e : ReconcileError} (h : e.isStop = false) :
    let count := Backoff.increment (((r.failures w).get? (key «namespace» name)).getD 0)
    r.errorPolicy name «namespace» e w = (.requeue (Backoff.delay count),
      r.setFailures ((r.failures w).insert (key «namespace» name) count) w) := by
  unfold errorPolicy
  rw [if_neg (by simp [h])]
  rfl

/-- If the instance is read and live, its finalizer in place, the configuration loaded and the status written, then
    the reconciliation ends as the pipeline does. Either all actions pass, and it waits for a change. Or it fails with
    the error of the first action that fails: those after it never run, what the others did stays and the status is
    made of it, and a stop is told and treated as one, any other error as a failure to be retried. -/
theorem reconcile_dispatches (readies : r.Readies name «namespace» w subject w₁ w₂ w₃ config)
    (ended : r.pipeline.run (r.readied subject config w₃) = (outcome, run))
    (reports : r.Reports subject outcome run s w') :
    let instanceKey := Key.ofResource r.resource run.request.subject.metadata.namespace subject.name
    (outcome = .ok () ∧ (∃ us, Passes (r.pipeline.actions.map (·.run)) (r.readied subject config w₃) us run) ∧
      r.reconcile name «namespace» w = (.ok .awaitChange, r.forget (key «namespace» name) w')) ∨
    ∃ k e, outcome = .error e ∧ Breaks (r.pipeline.actions.map (·.run)) k (r.readied subject config w₃) e run ∧
      r.reconcile name «namespace» w = (.error (.provision e), w') ∧
      (run.world.Quiet → (∀ k, k ≠ instanceKey → w'.cluster.object? k = run.world.cluster.object? k) ∧
        w'.memory = run.world.memory ∧ w'.journal = run.world.journal) ∧
      (run.request.conditions.happy ≠ provisioningSucceeded →
        ∃ o phase c, w'.cluster.object? instanceKey = some o ∧ o.Shows phase s.conditions ∧
          s.conditions.find? (·.type == provisioningSucceeded) = some c ∧ c.status = .false ∧
          c.reason = some (if e.isStop then reasonStopped else reasonError) ∧
          c.message = some e.cause.fullMessage) ∧
      ∀ later : World,
        let count := Backoff.increment (((r.failures later).get? (key «namespace» name)).getD 0)
        r.errorPolicy name «namespace» (.provision e) later =
          if e.isStop then (.awaitChange, later)
          else (.requeue (Backoff.delay count),
            r.setFailures ((r.failures later).insert (key «namespace» name) count) later) := by
  intro instanceKey
  have happly := apply_reported readies ended reports
  have hrun : inTurn (r.pipeline.actions.map (·.run)) (r.readied subject config w₃) = (outcome, run) := by
    rw [← Pipeline.runAll_eq]
    exact ended
  rw [reconcile_of_live readies.found readies.live]
  cases outcome with
  | ok =>
    obtain ⟨us, hpasses⟩ := inTurn_eq_ok.mp hrun
    exact .inl ⟨rfl, ⟨us, hpasses⟩, bind_ok happly⟩
  | error e =>
    obtain ⟨k, hbreaks⟩ := inTurn_eq_error.mp hrun
    refine .inr ⟨k, e, rfl, hbreaks, bind_error happly, fun quiet => ?_, reports.told, fun later => ?_⟩
    · exact reports.keeps quiet
    · cases hstop : e.isStop with
      | true => exact errorPolicy_of_stop hstop
      | false => exact errorPolicy_of_failure hstop

namespace Sample

/-- The second of three actions stops. -/
def stopping : Reconciler := { finalizing with pipeline := ⟨"dashboards", [telling, pretending, telling]⟩ }

def unfinalized : World := { cluster := Cluster.empty.put createdKey created }

theorem stopping_operates : ∀ a ∈ stopping.pipeline.actions, a.run.Operates := by
  have htelling : telling.run.Operates := .modifyConditions fun m clock => ⟨[(clock, .mark _ _ _)], rfl⟩
  intro a ha
  simp only [stopping, List.mem_cons, List.not_mem_nil, or_false] at ha
  rcases ha with rfl | rfl | rfl
  · exact htelling
  · exact pretending_operates
  · exact htelling

theorem stopping_run (start : Run) : ∃ conditions clock, stopping.pipeline.run start =
    (.error (.stop (.plain "paused")), ⟨{ start.world with clock }, { start.request with conditions }⟩) := by
  have htelling (run : Run) : ∃ conditions clock, telling.run run =
      (.ok (), ⟨{ run.world with clock }, { run.request with conditions }⟩) := ⟨_, _, rfl⟩
  have hpretending (run : Run) : ∃ conditions clock, pretending.run run =
      (.error (.stop (.plain "paused")), ⟨{ run.world with clock }, { run.request with conditions }⟩) := ⟨_, _, rfl⟩
  obtain ⟨m₁, clock₁, hfirst⟩ := htelling start
  obtain ⟨m₂, clock₂, hsecond⟩ := hpretending ⟨{ start.world with clock := clock₁ },
    { start.request with conditions := m₁ }⟩
  exact ⟨m₂, clock₂, (bind_ok hfirst).trans (bind_error hsecond)⟩

theorem stopping_reports : ∃ subject w₁ w₂ run s w',
    stopping.Readies "d" none unfinalized subject w₁ w₂ w₂ ⟨"apps", none⟩ ∧
      stopping.pipeline.run (stopping.readied subject ⟨"apps", none⟩ w₂) = (.error (.stop (.plain "paused")), run) ∧
      stopping.Reports subject (.error (.stop (.plain "paused"))) run s w' ∧
      Key.ofResource stopping.resource run.request.subject.metadata.namespace subject.name = createdKey := by
  obtain ⟨subject, hfound, hlive, hensured, hkey, hstored⟩ :
      ∃ subject ∈ ((stopping.find "d" none unfinalized).1.toOption.getD none),
      subject.metadata.isTerminating = false ∧
        (stopping.ensureFinalizer subject (stopping.find "d" none unfinalized).2).1.isOk = true ∧
        Key.ofResource stopping.resource subject.metadata.namespace subject.name = createdKey ∧
        ((stopping.ensureFinalizer subject (stopping.find "d" none unfinalized).2).2.cluster.object?
          createdKey).isSome = true := by
    decide +kernel
  have hcalm : (stopping.find "d" none unfinalized).2.Calm := ⟨rfl, rfl⟩
  rcases hfind : stopping.find "d" none unfinalized with ⟨e | found, w₁⟩ <;> rw [hfind] at hfound hensured hstored hcalm
  · cases hfound
  obtain rfl : found = some subject := hfound
  let w₂ := (stopping.ensureFinalizer subject w₁).2
  have hcalm₂ : w₂.Calm := ensureFinalizer_calm hcalm
  obtain ⟨o, ho⟩ := Option.isSome_iff_exists.mp hstored
  obtain ⟨m, clock, hrun⟩ := stopping_run (stopping.readied subject ⟨"apps", none⟩ w₂)
  rw [← hkey] at ho
  exact ⟨subject, w₁, w₂, _, _, _, ⟨hfind, hlive, eq_ok_of_isOk hensured, rfl⟩, hrun,
    ⟨rfl, World.patchStatus_serves (World.Calm.serves ⟨hcalm₂.faults, hcalm₂.arrivals⟩ _ _) ho⟩, hkey⟩

end Sample

open Reconciler.Sample in
/-- The second action stops the run of a dashboard that had no finalizer yet. The status tells that it stopped, and
    nothing is retried. -/
theorem reconcile_dispatches_sample :
    ∃ k start run o phase cs c, Breaks (stopping.pipeline.actions.map (·.run)) k start (.stop (.plain "paused")) run ∧
      (stopping.reconcile "d" none unfinalized).2.cluster.object? createdKey = some o ∧ o.Shows phase cs ∧
      cs.find? (·.type == provisioningSucceeded) = some c ∧ c.status = .false ∧ c.reason = some "Stopped" ∧
      c.message = some "paused" ∧
      ∀ later, stopping.errorPolicy "d" none (.provision (.stop (.plain "paused"))) later = (.awaitChange, later) := by
  obtain ⟨subject, w₁, w₂, run, s, w', hreadies, hended, hreports, hkey⟩ := stopping_reports
  rcases reconcile_dispatches hreadies hended hreports with
    ⟨hok, -, -⟩ | ⟨k, e, he, hbreaks, hfailed, -, htold, hpolicy⟩
  · cases hok
  · cases he
    obtain ⟨o, phase, c, ho, hshows, hc, hsays⟩ := htold (readied_happy stopping_operates hended)
    rw [hkey] at ho
    rw [hfailed]
    exact ⟨k, _, _, o, phase, _, c, hbreaks, ho, hshows, hc, hsays.1, hsays.2.1, hsays.2.2, hpolicy⟩

end Reconciler
end PlatformOperator
