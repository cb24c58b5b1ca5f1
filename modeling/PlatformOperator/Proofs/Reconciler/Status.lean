import PlatformOperator.Proofs.Action.Operates
import PlatformOperator.Proofs.Condition.Distinct
import PlatformOperator.Proofs.Condition.Mirror
import PlatformOperator.Reconciler

/-! The status that a reconciliation writes agrees with itself and with the run: whatever the actions made of
    the conditions, the phase, the happy condition, its dependents and the outcome of the pipeline tell the
    same. -/

namespace PlatformOperator

/-! ### The status -/

namespace PlatformStatus

/-- One of the conditions is of this type and has this status. -/
def Says (s : PlatformStatus) (t : String) (status : ConditionStatus) : Prop :=
  ∃ c ∈ s.conditions, c.type = t ∧ c.status = status

/-- The status agrees with itself, with the dependents declared, and with whether the run succeeded. What
    the instance told before counts for the observed generation only. -/
structure Agrees (subject : Instance) (declared : List String) (succeeded : Bool) (s : PlatformStatus) : Prop where
  distinct : (s.conditions.map (·.type)).Nodup
  first : s.conditions.head?.map (·.type) = some Condition.ready
  phase : s.phase = some Condition.phaseReady ∨ s.phase = some Condition.phaseNotReady
  ready : s.phase = some Condition.phaseReady ↔ s.Says Condition.ready .true
  healthy : s.Says Condition.ready .true ↔
    ∀ c ∈ s.conditions, c.severity = .error → c.type ∈ declared → c.status = .true
  provisioned : ∃ c ∈ s.conditions, c.type = Condition.provisioningSucceeded ∧
    (c.status = .true ↔ succeeded = true) ∧ c.observedGeneration = some subject.generation
  failed : succeeded = false → s.phase = some Condition.phaseNotReady
  observed : s.observedGeneration =
    if s.phase = some Condition.phaseReady then some subject.generation else subject.status.bind (·.observedGeneration)

end PlatformStatus

namespace Manager
variable {m : Manager} {c : Condition} {declared : List String}

/-- In sorted conditions the happy one comes first. -/
theorem sort_head? (h : ∃ c ∈ m.conditions, c.type = m.happy) :
    m.sort.conditions.head?.map (·.type) = some m.happy := by
  obtain ⟨c, hc, htype⟩ := h
  have hmem : c ∈ m.ofType m.happy := List.mem_filter.mpr ⟨hc, beq_iff_eq.mpr htype⟩
  obtain ⟨d, ds, hfirst⟩ := List.exists_cons_of_ne_nil (List.ne_nil_of_mem hmem)
  have hd : d ∈ m.ofType m.happy := hfirst ▸ List.mem_cons_self
  rw [sort_happy_first, hfirst, List.cons_append, List.head?_cons, Option.map_some,
    beq_iff_eq.mp (List.mem_filter.mp hd).2]

/-- Where the happy condition mirrors the other ones, it is True just if all that count are. -/
theorem InLine.isHappy_iff (h : m.InLine)
    (hdeps : ∀ t, t ∈ m.dependents ↔ t ∈ declared ∧ t ≠ m.happy) (hsome : ∃ t ∈ declared, t ≠ m.happy) :
    m.isHappy = true ↔
      ∀ c ∈ m.conditions, c.severity = .error → c.type ∈ declared → c.type ≠ m.happy → c.status = .true := by
  obtain ⟨top, hfound, hfollows⟩ := h.mirrors rfl hdeps
  have hhappy : m.isHappy = true ↔ top.status = .true := by
    unfold isHappy top? condition?
    rw [hfound]
    exact beq_iff_eq
  have hbears {t : String} : Bears m.happy declared t ↔ t ∈ declared ∧ t ≠ m.happy := by
    obtain ⟨t', ht', hne⟩ := hsome
    constructor
    · rintro ⟨hneq, hmem | hall⟩
      · exact ⟨hmem, hneq⟩
      · exact absurd (hall t' ht') hne
    · rintro ⟨hmem, hneq⟩
      exact ⟨hneq, Or.inl hmem⟩
  rw [hhappy]
  constructor
  · intro htop c hc hsev hmem hne
    by_contra hstatus
    have hc : Weighs m.happy declared m.conditions c := ⟨hc, hsev, hbears.mpr ⟨hmem, hne⟩⟩
    obtain ⟨d, hd, hdtop, -⟩ := hfollows.explained ⟨c, hc, hstatus⟩
    -- A condition that is not True makes the happy one False or Unknown.
    by_cases hfalse : ∃ c, Weighs m.happy declared m.conditions c ∧ c.status = .false
    · rw [hfollows.failed hfalse] at htop
      cases htop
    · have hnone : ∀ c, Weighs m.happy declared m.conditions c → c.status ≠ .false :=
        fun c hc hs => hfalse ⟨c, hc, hs⟩
      rw [hfollows.pending ⟨c, hc, hstatus⟩ hnone] at htop
      cases htop
  · intro hall
    refine hfollows.content ?_
    rintro c ⟨hc, hsev, hc'⟩
    obtain ⟨hmem, hne⟩ := hbears.mp hc'
    exact hall c hc hsev hmem hne

end Manager

namespace Reconciler
open Condition
variable {r : Reconciler} {subject : Instance} {w w₁ w₂ : World} {outcome : Except ActionError Unit} {m : Manager}
  {declared : List String} {clock : Clock} {generation : Int} {succeeded : Bool}

/-! ### The conditions at the end of a run -/

theorem provisioningSucceeded_ne_ready : provisioningSucceeded ≠ ready := by decide

/-- The condition that tells the outcome of a run. -/
def told (generation : Int) : Except ActionError Unit → Condition
  | .ok () => { type := provisioningSucceeded, status := .true, observedGeneration := some generation }
  | .error (.stop c) =>
    { type := provisioningSucceeded, status := .false, observedGeneration := some generation,
      reason := some reasonStopped, message := some c.fullMessage }
  | .error (.retryable c) =>
    { type := provisioningSucceeded, status := .false, observedGeneration := some generation,
      reason := some reasonError, message := some c.fullMessage }

theorem told_type (generation : Int) (outcome : Except ActionError Unit) :
    (told generation outcome).type = provisioningSucceeded := by
  rcases outcome with (_ | _) | _ <;> rfl

theorem told_status (generation : Int) (outcome : Except ActionError Unit) :
    (told generation outcome).status = .true ↔ outcome.isOk = true := by
  rcases outcome with (_ | _) | _
  · exact ⟨(by cases ·), (by cases ·)⟩
  · exact ⟨(by cases ·), (by cases ·)⟩
  · exact iff_of_true rfl rfl

theorem told_observed (generation : Int) (outcome : Except ActionError Unit) :
    (told generation outcome).observedGeneration = some generation ∧ (told generation outcome).severity = .error := by
  rcases outcome with (_ | _) | _ <;> exact ⟨rfl, rfl⟩

/-- At the end the outcome is marked, the happy condition put in line, and everything sorted. -/
theorem concluded_eq (generation : Int) (outcome : Except ActionError Unit) (m : Manager) (clock : Clock) :
    let marked := m.set (told generation outcome) clock
    let aligned := marked.1.recompute "" marked.2
    concluded generation outcome m clock = (aligned.1.sort, aligned.2) := by
  rcases outcome with (_ | _) | _ <;> rfl

/-- The conditions as a run leaves them. -/
structure Concluded (generation : Int) (declared : List String) (succeeded : Bool) (m : Manager) : Prop where
  happy : m.happy = ready
  dependents : ∀ t, t ∈ m.dependents ↔ t ∈ declared ∧ t ≠ ready
  inLine : m.InLine
  distinct : m.Distinct
  first : m.conditions.head?.map (·.type) = some ready
  outcome : ∃ c ∈ m.conditions, c.type = provisioningSucceeded ∧ (c.status = .true ↔ succeeded = true) ∧
    c.observedGeneration = some generation ∧ c.severity = .error

theorem concluded_concluded (generation : Int) (outcome : Except ActionError Unit) (clock : Clock)
    (hhappy : m.happy = ready) (hdeps : ∀ t, t ∈ m.dependents ↔ t ∈ declared ∧ t ≠ ready)
    (hdistinct : m.Distinct) :
    Concluded generation declared outcome.isOk (concluded generation outcome m clock).1 := by
  rw [concluded_eq]
  let c := told generation outcome
  have htype : c.type = provisioningSucceeded := told_type generation outcome
  obtain ⟨hgeneration, hseverity⟩ := told_observed generation outcome
  let marked := (m.set c clock).1
  let clock' := (m.set c clock).2
  let aligned := (marked.recompute "" clock').1
  obtain ⟨hhappy', hdeps'⟩ : m.SameTypes aligned :=
    (Manager.sameTypes_set c m clock).trans (Manager.sameTypes_recompute "" marked clock')
  have hmarked : marked.happy = ready := (Manager.sameTypes_set c m clock).1.trans hhappy
  have hne : c.type ≠ ready := htype ▸ provisioningSucceeded_ne_ready
  have hline : aligned.InLine := Manager.recompute_inLine (by rw [hmarked]; decide) clock'
  have hhead : aligned.sort.conditions.head?.map (·.type) = some aligned.happy := by
    obtain ⟨top, hfound, -⟩ := hline
    have htop : top.type = aligned.happy := by simpa using List.find?_some hfound
    exact Manager.sort_head? ⟨top, List.mem_of_find?_eq_some hfound, htop⟩
  -- The happy condition is put in line after the mark, which stays as it was made.
  obtain ⟨d, hd, hsame⟩ := Manager.set_condition? (hhappy ▸ hne) clock
  have hkept : aligned.condition? c.type = some d := (Manager.recompute_condition? (hmarked ▸ hne) clock').trans hd
  have hmem : d ∈ aligned.conditions := List.mem_of_find?_eq_some hkept
  have hdtype : d.type = c.type := by simpa using List.find?_some hkept
  obtain ⟨hdstatus, -, -⟩ := said_of_timeless hsame
  obtain ⟨hdgeneration, hdseverity⟩ := observed_of_timeless hsame
  exact
    { happy := hhappy'.trans hhappy
      dependents := hdeps' ▸ hdeps
      inLine := hline.sort
      distinct := ((hdistinct.set c clock).recompute "" clock').sort
      first := by rw [hhead, hhappy', hhappy]
      outcome := ⟨d, (Manager.sort_perm aligned).mem_iff.mpr hmem, hdtype.trans htype,
        hdstatus ▸ told_status generation outcome, hdgeneration.trans hgeneration, hdseverity.trans hseverity⟩ }

theorem statusOf_conditions (generation : Int) (m : Manager) (s : PlatformStatus) :
    (statusOf generation m s).conditions = m.conditions := by
  unfold statusOf
  split <;> rfl

theorem statusOf_phase (generation : Int) (m : Manager) (s : PlatformStatus) :
    (statusOf generation m s).phase = some (if m.isHappy then phaseReady else phaseNotReady) := by
  unfold statusOf
  split <;> rfl

theorem statusOf_observedGeneration (generation : Int) (m : Manager) (s : PlatformStatus) :
    (statusOf generation m s).observedGeneration = if m.isHappy then some generation else s.observedGeneration := by
  unfold statusOf
  split <;> rfl

/-- The status that the conditions of a run make. -/
theorem Concluded.agrees (h : Concluded subject.generation declared succeeded m)
    (hdeclared : provisioningSucceeded ∈ declared) :
    (statusOf subject.generation m (subject.status.getD {})).Agrees subject declared succeeded := by
  let s := statusOf subject.generation m (subject.status.getD {})
  have hconditions : s.conditions = m.conditions := statusOf_conditions _ m _
  have htold : s.Says ready .true ↔ m.isHappy = true := by
    unfold PlatformStatus.Says Manager.isHappy Manager.top?
    rw [hconditions, h.happy, Option.any_eq_true]
    constructor
    · rintro ⟨c, hc, htype, hstatus⟩
      exact ⟨c, h.distinct.condition?_eq_some.mpr ⟨hc, htype⟩, beq_iff_eq.mpr hstatus⟩
    · rintro ⟨c, hc, hstatus⟩
      obtain ⟨hmem, htype⟩ := h.distinct.condition?_eq_some.mp hc
      exact ⟨c, hmem, htype, beq_iff_eq.mp hstatus⟩
  have hphase : s.phase = some (if m.isHappy then phaseReady else phaseNotReady) := statusOf_phase _ m _
  have hready : s.phase = some phaseReady ↔ m.isHappy = true := by
    rw [hphase]
    cases m.isHappy <;> decide
  have hdeps : ∀ t, t ∈ m.dependents ↔ t ∈ declared ∧ t ≠ m.happy := by
    rw [h.happy]
    exact h.dependents
  have hhealthy := h.inLine.isHappy_iff hdeps
    ⟨_, hdeclared, by rw [h.happy]; exact provisioningSucceeded_ne_ready⟩
  obtain ⟨c, hc, htype, hstatus, hgeneration, hseverity⟩ := h.outcome
  refine ⟨?_, ?_, ?_, hready.trans htold.symm, ?_, ⟨c, ?_, htype, hstatus, hgeneration⟩, ?_, ?_⟩
  · rw [hconditions]
    exact h.distinct
  · rw [hconditions]
    exact h.first
  · rw [hphase]
    cases m.isHappy <;> decide
  · rw [htold]
    constructor
    · intro hhappy d hd hsev hmem
      rw [hconditions] at hd
      by_cases hd' : d.type = m.happy
      -- The happy condition itself may be declared: it is the one that is True.
      · obtain ⟨top, htop, htrue⟩ := (Option.any_eq_true _ _).mp hhappy
        rw [Manager.top?, h.distinct.condition?_eq_some.mpr ⟨hd, hd'⟩] at htop
        cases htop
        exact beq_iff_eq.mp htrue
      · exact hhealthy.mp hhappy d hd hsev hmem hd'
    · intro hall
      refine hhealthy.mpr fun d hd hsev hmem _ => ?_
      exact hall d (hconditions ▸ hd) hsev hmem
  · rw [hconditions]
    exact hc
  · intro hfailed
    have hunhappy : m.isHappy = false := by
      rw [Bool.eq_false_iff]
      intro hhappy
      have htrue := hhealthy.mp hhappy c hc hseverity (htype ▸ hdeclared)
        (by rw [htype, h.happy]; exact provisioningSucceeded_ne_ready)
      rw [hstatus.mp htrue] at hfailed
      cases hfailed
    rw [hphase, hunhappy]
    rfl
  · show s.observedGeneration = if s.phase = _ then _ else _
    rw [if_congr hready rfl rfl]
    refine (statusOf_observedGeneration _ m _).trans (if_congr Iff.rfl rfl ?_)
    cases subject.status <;> rfl

/-! ### Runs -/

/-- The run that the pipeline starts from once the configuration is loaded. -/
def readied (r : Reconciler) (subject : Instance) (config : ClusterConfig) (w : World) : Run :=
  let (request, clock) := Request.start config r.release subject (provisioningSucceeded :: r.dependents) w.clock
  let (conditions, clock) := request.conditions.reset clock
  ⟨{ w with clock }, { request with conditions }⟩

theorem provision_of_config {ε : Type} {config : ClusterConfig} (h : r.config w = (.ok config, w₁)) :
    (r.provision subject : Op ε _) w =
      let (outcome, run) := r.pipeline.run (r.readied subject config w₁)
      (.ok (run.request.subject, run.request.conditions, outcome), run.world) := by
  have hrequest : r.request subject w = (.ok (Request.start config r.release subject _ w₁.clock).1,
      { w₁ with
        clock := (Request.start config r.release subject (provisioningSucceeded :: r.dependents) w₁.clock).2 }) :=
    Computation.bind_ok h
  exact Computation.bind_ok (Op.outcome_eq hrequest)

theorem provision_of_error {ε : Type} {c : Cause} (h : r.config w = (.error c, w₁)) :
    (r.provision subject : Op ε _) w =
      (.ok (subject, (Manager.start subject.conditions ready [provisioningSucceeded] w₁.clock).1,
          .error (.retryable (ReconcileError.loadClusterConfig c).cause)),
        { w₁ with clock := (Manager.start subject.conditions ready [provisioningSucceeded] w₁.clock).2 }) :=
  Computation.bind_ok (Op.outcome_eq (Computation.bind_error h))

/-- How the pipeline ends for an instance, and the dependents that are in force: all those of the reconciler,
    or only the pipeline's own condition where the configuration fails to load. -/
inductive Ends (r : Reconciler) (subject : Instance) (w : World) : Except ActionError Unit → List String → Prop
  | ran {config : ClusterConfig} {w₁ : World} (loaded : r.config w = (.ok config, w₁)) :
    r.Ends subject w (r.pipeline.run (r.readied subject config w₁)).1 (provisioningSucceeded :: r.dependents)
  | unconfigured {c : Cause} {w₁ : World} (failed : r.config w = (.error c, w₁)) :
    r.Ends subject w (.error (.retryable (ReconcileError.loadClusterConfig c).cause)) [provisioningSucceeded]

/-- Actions that operate leave the instance alone, and the conditions are those of a manager that was operated on since
    its start. -/
theorem readied_operates (operates : ∀ a ∈ r.pipeline.actions, a.run.Operates) (subject : Instance)
    (config : ClusterConfig) (w : World) :
    let run := (r.pipeline.run (r.readied subject config w)).2
    run.request.subject = subject ∧ ∃ ops, run.request.conditions =
      (Manager.start subject.conditions ready (provisioningSucceeded :: r.dependents) w.clock).1.after ops := by
  let run := r.readied subject config w
  obtain ⟨hsubject, ops, hops⟩ := Pipeline.runAll_moves operates run
  obtain ⟨clock, hreset⟩ : ∃ clock, run.request.conditions = (Manager.start subject.conditions ready
      (provisioningSucceeded :: r.dependents) w.clock).1.after [(clock, .reset)] := ⟨_, rfl⟩
  refine ⟨hsubject, [(clock, .reset)] ++ ops, ?_⟩
  rw [Manager.after_append, ← hreset]
  exact hops

/-- What provisioning gives, for actions that operate. -/
theorem provision_ends (ε : Type) (operates : ∀ a ∈ r.pipeline.actions, a.run.Operates)
    (distinct : (subject.conditions.map (·.type)).Nodup) (w : World) :
    ∃ m outcome w₂ declared, (r.provision subject : Op ε _) w = (.ok (subject, m, outcome), w₂) ∧
      r.Ends subject w outcome declared ∧ m.happy = ready ∧ (∀ t, t ∈ m.dependents ↔ t ∈ declared ∧ t ≠ ready) ∧
        m.Distinct ∧ provisioningSucceeded ∈ declared := by
  rcases h : r.config w with ⟨c | config, w₁⟩
  · obtain ⟨hhappy, hdeps⟩ :=
      Manager.types_after_start subject.conditions ready [provisioningSucceeded] w₁.clock []
    exact ⟨_, _, _, _, provision_of_error h, .unconfigured h, hhappy, hdeps, .start distinct _ _ _, List.mem_cons_self⟩
  · let run := r.readied subject config w₁
    let declared := provisioningSucceeded :: r.dependents
    obtain ⟨hsubject, ops, hconditions⟩ := readied_operates operates subject config w₁
    obtain ⟨hhappy, hdeps⟩ := Manager.types_after_start subject.conditions ready declared w₁.clock ops
    have hdistinct := (Manager.Distinct.start distinct ready declared w₁.clock).after ops
    rw [← hconditions] at hhappy hdeps hdistinct
    have hprovision : (r.provision subject : Op ε _) w = (.ok ((r.pipeline.run run).2.request.subject,
        (r.pipeline.run run).2.request.conditions, (r.pipeline.run run).1), (r.pipeline.run run).2.world) :=
      provision_of_config h
    rw [hsubject] at hprovision
    exact ⟨_, _, _, declared, hprovision, .ran h, hhappy, hdeps, hdistinct, List.mem_cons_self⟩

theorem writeStatus_snd («namespace» : Option String) (name : String) (s : PlatformStatus) :
    (r.writeStatus «namespace» name s w).2 = (World.patchStatus r.resource «namespace» name s.toJson w).2 := by
  refine Computation.bind_snd ?_
  rintro (e | _) w
  · cases h : e.isNotFound <;> simp only [h] <;> rfl
  · rfl

/-- Writing the status is the last call: what follows only picks the result. -/
theorem apply_snd {after : Instance} (hensure : r.ensureFinalizer subject w = (.ok (), w₁))
    (hprovision : (r.provision subject : Op ReconcileError _) w₁ = (.ok (after, m, outcome), w₂)) :
    (r.apply subject w).2 =
      (World.patchStatus r.resource after.metadata.namespace subject.name
        (statusOf subject.generation (concluded subject.generation outcome m w₂.clock).1 (after.status.getD {})).toJson
        { w₂ with clock := (concluded subject.generation outcome m w₂.clock).2 }).2 := by
  unfold apply
  rw [Computation.bind_ok hensure, Computation.bind_ok hprovision]
  show ((Op.timed _ >>= _) w₂).2 = _
  rw [Computation.bind_ok (Op.timed_eq _)]
  refine (Computation.bind_snd fun _ _ => ?_).trans (writeStatus_snd _ _ _)
  cases outcome <;> rfl

/-- The last thing a reconciliation of a live instance does is to write a status that agrees with itself and
    with the run, if it gets past the finalizer. -/
theorem apply_writes_status (r : Reconciler) (subject : Instance) (w : World)
    (operates : ∀ a ∈ r.pipeline.actions, a.run.Operates) (distinct : (subject.conditions.map (·.type)).Nodup) :
    (∃ e w₁, r.ensureFinalizer subject w = (.error e, w₁) ∧ r.apply subject w = (.error e, w₁)) ∨
      ∃ w₁ outcome declared w₂ s,
        r.ensureFinalizer subject w = (.ok (), w₁) ∧ r.Ends subject w₁ outcome declared ∧
          (r.apply subject w).2 =
            (World.patchStatus r.resource subject.metadata.namespace subject.name s.toJson w₂).2 ∧
          PlatformStatus.Agrees subject declared outcome.isOk s := by
  rcases hensure : r.ensureFinalizer subject w with ⟨e | _, w₁⟩
  · exact Or.inl ⟨e, w₁, rfl, Computation.bind_error hensure⟩
  · obtain ⟨m, outcome, w₂, declared, hprovision, hends, hhappy, hdeps, hdistinct, hdeclared⟩ :=
      provision_ends ReconcileError operates distinct w₁
    have hconcluded := concluded_concluded subject.generation outcome w₂.clock hhappy hdeps hdistinct
    exact Or.inr ⟨w₁, outcome, declared, _, _, rfl, hends, apply_snd hensure hprovision, hconcluded.agrees hdeclared⟩

namespace Sample

/-- An action that claims success in place of the reconciler, and then gives up. -/
def pretending : Action where
  name := "pretending"
  run := do
    RunM.modifyConditions (Manager.clear provisioningSucceeded)
    RunM.modifyConditions (Manager.mark ready .true {})
    throw (.stop (.plain "paused"))

def reconciler : Reconciler where
  name := "dashboards"
  resource := Instance.dashboards
  config := return ⟨"apps", none⟩
  release := default
  dependents := [deploymentsAvailable]
  pipeline := ⟨"dashboards", [.deploy, .deployments none, pretending]⟩
  finalizer := none

/-- An instance that was ready before. -/
def dashboard : Instance where
  resource := Instance.dashboards
  metadata := { name := some "d", uid := some "d", generation := some 2 }
  devFlags := none
  status := some {
    phase := some phaseReady
    observedGeneration := some 1
    conditions := [{ type := ready, status := .true }, { type := deploymentsAvailable, status := .true }] }

theorem pretending_operates : pretending.run.Operates := by
  refine (RunM.Operates.modifyConditions fun m clock => ⟨[(clock, .clear _)], rfl⟩).bind fun _ => ?_
  exact (RunM.Operates.modifyConditions fun m clock => ⟨[(clock, .mark _ _ _)], rfl⟩).bind fun _ => .throw _

end Sample

open Reconciler.Sample in
theorem apply_writes_status_sample :
    (∀ a ∈ reconciler.pipeline.actions, a.run.Operates) ∧ (Sample.dashboard.conditions.map (·.type)).Nodup ∧
      ∃ w₁ outcome declared w₂ s,
        reconciler.ensureFinalizer Sample.dashboard {} = (.ok (), w₁) ∧
          reconciler.Ends Sample.dashboard w₁ outcome declared ∧
          (reconciler.apply Sample.dashboard {}).2 = (World.patchStatus Instance.dashboards none "d" s.toJson w₂).2 ∧
          PlatformStatus.Agrees Sample.dashboard declared outcome.isOk s := by
  have operates : ∀ a ∈ reconciler.pipeline.actions, a.run.Operates := by
    intro a ha
    simp only [reconciler, List.mem_cons, List.not_mem_nil, or_false] at ha
    rcases ha with rfl | rfl | rfl
    · exact Action.deploy_operates
    · exact Action.deployments_operates none
    · exact pretending_operates
  have distinct : (Sample.dashboard.conditions.map (·.type)).Nodup := by decide
  refine ⟨operates, distinct, ?_⟩
  rcases apply_writes_status reconciler Sample.dashboard {} operates distinct with ⟨e, w₁, hensure, -⟩ | hwritten
  · cases hensure
  · exact hwritten

end Reconciler
end PlatformOperator
