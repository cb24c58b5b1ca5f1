import PlatformOperator.Proofs.Condition.Settled
import PlatformOperator.Proofs.Object.Reread
import PlatformOperator.Proofs.Reconciler.Deletion

/-! A reconciliation that nobody disturbs ends by writing its status, and what it leaves of the instance reads as
    before with this status and with the platform's finalizer. -/

namespace PlatformOperator

namespace Cluster
variable {r : ApiResource} {«namespace» : Option String} {name : String} {c : Cluster} {now : Timestamp}
  {o o' : Object} {patch : Json}

/-- A patch that leaves the object live is stored. -/
theorem mergePatch_of_live (ho : c.object? (.ofResource r «namespace» name) = some o)
    (hread : Object.ofJson? (o.toJson.merge patch) = some o') (hlive : o'.metadata.isTerminating = false) :
    c.mergePatch now r «namespace» name patch = .ok (o', c.put (.ofResource r «namespace» name) o') := by
  unfold mergePatch
  dsimp only
  rw [ho]
  dsimp only
  rw [hread]
  dsimp only
  rw [if_neg (by simp [hlive])]

end Cluster

namespace World
variable {r : ApiResource} {«namespace» : Option String} {name : String} {w : World} {call : Call} {k : Key}
  {o o' : Object} {patch status : Json}

/-- No fault is due for the call, and nothing that arrives with it is stored under the key. -/
def Serves (w : World) (call : Call) (k : Key) : Prop :=
  (strike call w.faults).1 = none ∧ (receive call w.arrivals w.cluster).2.object? k = w.cluster.object? k

theorem Calm.serves (h : w.Calm) (call : Call) (k : Key) : w.Serves call k := by
  unfold Serves
  rw [h.faults, h.arrivals]
  exact ⟨rfl, rfl⟩

theorem begin_serves (h : w.Serves call k) : begin call w = (.ok (), (begin call w).2) := by
  obtain ⟨hstrike, -⟩ := h
  refine Prod.ext ?_ rfl
  unfold begin
  dsimp only
  rw [hstrike]

theorem begin_object? (h : w.Serves call k) : (begin call w).2.cluster.object? k = w.cluster.object? k := h.2

theorem change_ok {α : Type} {f : Timestamp → Cluster → Except ApiError (α × Cluster)} {a : α} {c : Cluster}
    (h : f w.clock.next w.cluster = .ok (a, c)) :
    change f w = (.ok a, { w with cluster := c, clock := w.clock.tick }) := by
  unfold change
  rw [h]

theorem getObject_serves (h : w.Serves (.get r «namespace» name) (.ofResource r «namespace» name)) :
    getObject r «namespace» name w =
      (.ok (w.cluster.object? (.ofResource r «namespace» name)), (begin (.get r «namespace» name) w).2) := by
  refine (Computation.bind_ok (begin_serves h)).trans ?_
  rw [← begin_object? h]
  rfl

theorem mergePatch_serves (h : w.Serves (.mergePatch r «namespace» name patch) (.ofResource r «namespace» name))
    (ho : w.cluster.object? (.ofResource r «namespace» name) = some o)
    (hread : Object.ofJson? (o.toJson.merge patch) = some o') (hlive : o'.metadata.isTerminating = false) :
    let begun := (begin (.mergePatch r «namespace» name patch) w).2
    mergePatch r «namespace» name patch w = (.ok o', { begun with
      cluster := begun.cluster.put (.ofResource r «namespace» name) o'
      clock := w.clock.tick }) :=
  (Computation.bind_ok (begin_serves h)).trans
    (change_ok (Cluster.mergePatch_of_live ((begin_object? h).trans ho) hread hlive))

theorem patchStatus_serves (h : w.Serves (.patchStatus r «namespace» name status) (.ofResource r «namespace» name))
    (ho : w.cluster.object? (.ofResource r «namespace» name) = some o) :
    let begun := (begin (.patchStatus r «namespace» name status) w).2
    patchStatus r «namespace» name status w = (.ok (), { begun with
      cluster := begun.cluster.put (.ofResource r «namespace» name) (o.withStatus status)
      clock := w.clock.tick }) := by
  intro begun
  refine (Computation.bind_ok (begin_serves h)).trans (change_ok ?_)
  rw [Cluster.patchStatus_of_some ((begin_object? h).trans ho)]
  rfl

end World

namespace Instance
open Json
variable {t : ApiResource} {o : Object} {i : Instance} {s : PlatformStatus} {phase : String}

/-- What is merged into the status that the instance has reads as it was written. Only the observed generation may
    come from before. -/
theorem ReadsFrom.ofJson?_mergedStatus (h : ReadsFrom t o i) (hphase : s.phase = some phase)
    (hconditions : s.conditions ≠ []) (hgeneration : ∀ n, s.observedGeneration = some n → IsWord n)
    (hobserved : s.observedGeneration = none → (i.status.getD {}).observedGeneration = none)
    (hwritable : ∀ c ∈ s.conditions, c.Writable) : PlatformStatus.ofJson? (o.mergedStatus s.toJson) = some s.whole := by
  unfold Object.mergedStatus
  cases hcurrent : Dict.get? o.content "status" with
  | none => exact PlatformStatus.ofJson?_toJson hconditions hgeneration hwritable
  | some current =>
    refine PlatformStatus.ofJson?_merge hphase hconditions hgeneration (fun hnone => ?_) hwritable
    cases current with
    | obj ms =>
      have hread := h.status
      rw [optional_of_some hcurrent (by simp)] at hread
      obtain ⟨st, hst, hsome⟩ := Option.map_eq_some_iff.mp hread
      have hbefore := hobserved hnone
      rw [← hsome] at hbefore
      exact (PlatformStatus.observed_of_ofJson? hst).trans (congrArg some hbefore)
    | _ => rfl

/-- The generations of an instance that was read have 64 bits. -/
theorem ReadsFrom.generations (h : ReadsFrom t o i) : IsWord i.generation ∧
    (∀ n, (i.status.getD {}).observedGeneration = some n → IsWord n) ∧
      ∀ c ∈ i.conditions, ∀ n, c.observedGeneration = some n → IsWord n := by
  have hgeneration : IsWord i.generation := by
    unfold generation
    cases hn : i.metadata.generation with
    | none => exact ⟨by decide, by decide⟩
    | some n => exact isWord_of_optional h.metadata.generation hn
  refine ⟨hgeneration, ?_⟩
  unfold conditions
  cases hs : i.status with
  | none => exact ⟨fun n hn => (by cases hn), fun c hc => (by cases hc)⟩
  | some s =>
    obtain ⟨j, hj⟩ := read_of_optional h.status hs
    exact PlatformStatus.generations_of_ofJson? hj

end Instance

namespace Reconciler
open Condition Manager
variable {r : Reconciler} {subject : Instance} {w w₁ w₂ : World} {o : Object}

/-! ### Before the pipeline -/

/-- The world once the instance is fetched. -/
def fetched (r : Reconciler) (subject : Instance) (w : World) : World :=
  (World.begin (.get r.resource subject.metadata.namespace subject.name) w).2

/-- The world that provisioning starts from. -/
def launched (r : Reconciler) (subject : Instance) (w : World) : World :=
  (r.ensureFinalizer subject (r.fetched subject w)).2

/-- The finalizers of an instance with the platform's added. -/
def guarding (subject : Instance) : List String := subject.metadata.finalizerList ++ [Marks.finalizer]

theorem find_served
    (hserves : w.Serves (.get r.resource subject.metadata.namespace subject.name) (subject.key r.resource))
    (ho : w.cluster.object? (subject.key r.resource) = some o)
    (hread : Instance.ofJson? r.resource o.toJson = some subject) :
    r.find subject.name subject.metadata.namespace w = (.ok (some subject), r.fetched subject w) := by
  have hstored : w.cluster.object? (.ofResource r.resource subject.metadata.namespace subject.name) = some o := ho
  have hget := World.getObject_serves hserves
  rw [hstored] at hget
  refine (Computation.bind_ok (Op.mapError_eq_ok.mpr hget)).trans ?_
  dsimp only
  rw [hread]
  rfl

/-- With the finalizer in place the instance reads as before. -/
theorem ensureFinalizer_served (hserves : r.finalizer.isSome = true → Marks.finalizer ∉ subject.metadata.finalizerList →
      w.Serves (r.replacingFinalizers subject (guarding subject)) (subject.key r.resource))
    (ho : w.cluster.object? (subject.key r.resource) = some o) (hcontent : o.content.Ascending)
    (hread : Instance.ReadsFrom r.resource o subject) (hlive : subject.metadata.isTerminating = false) :
    ∃ w₁ o₁ fs, r.ensureFinalizer subject w = (.ok (), w₁) ∧ w.clock.readings ≤ w₁.clock.readings ∧
      w₁.cluster.object? (subject.key r.resource) = some o₁ ∧ o₁.content.Ascending ∧
      Instance.ReadsFrom r.resource o₁ { subject with metadata := { subject.metadata with finalizers := fs } } := by
  by_cases hmissing : r.finalizer.isSome = true ∧ Marks.finalizer ∉ subject.metadata.finalizerList
  · have hpatch : r.ensureFinalizer subject w = r.updateFinalizers subject (guarding subject) w := by
      unfold ensureFinalizer guarding
      rw [if_pos (by simpa using hmissing)]
    obtain ⟨o₁, hmerged, hcontent₁, hmetadata, hread₁⟩ := hread.withFinalizers hcontent (guarding subject)
    have hlive₁ : o₁.metadata.isTerminating = false := hmetadata ▸ hlive
    have hserved := World.mergePatch_serves (hserves hmissing.1 hmissing.2) ho hmerged hlive₁
    have hensured := hpatch.trans (Computation.bind_ok (Op.mapError_eq_ok.mpr hserved))
    refine ⟨_, o₁, some (guarding subject), hensured, ?_, ?_, hcontent₁, hread₁⟩
    · exact Nat.le_succ _
    · exact (Cluster.object?_put _ _ _ _).trans (if_pos rfl)
  · have hkept : r.ensureFinalizer subject w = (.ok (), w) := by
      unfold ensureFinalizer
      rw [if_neg (by simpa using hmissing)]
      rfl
    exact ⟨w, o, subject.metadata.finalizers, hkept, Nat.le_refl _, ho, hcontent, hread⟩

theorem ensureFinalizer_calm (calm : w.Calm) : (r.ensureFinalizer subject w).2.Calm := by
  unfold ensureFinalizer
  split
  · rw [updateFinalizers_snd]
    have hbegun (call : Call) : (World.begin call w).2.Calm := by
      rw [World.begin_calm calm]
      exact ⟨calm.faults, calm.arrivals⟩
    rcases World.mergePatch_cases (r := r.resource) w with ⟨e, _, hpatch⟩ | ⟨o, c, -, hpatch⟩ <;>
    · rw [hpatch]
      exact ⟨(hbegun _).faults, (hbegun _).arrivals⟩
  · exact calm

/-! ### Provisioning -/

/-- How provisioning ends: the pipeline makes these marks and comes to this outcome, or the configuration does not
    load. -/
inductive Ending where
  | ran (marks : List Mark) (outcome : Except ActionError Unit)
  | unconfigured (c : Cause)

namespace Ending

def marks : Ending → List Mark
  | .ran ks _ => ks
  | .unconfigured _ => []

def outcome : Ending → Except ActionError Unit
  | .ran _ outcome => outcome
  | .unconfigured c => .error (.retryable (ReconcileError.loadClusterConfig c).cause)

end Ending

/-- Provisioning in the first world ends so in the second one. The pipeline does nothing to the conditions but its
    marks, nobody writes the instance, and the clock does not go back. -/
inductive Provisions (r : Reconciler) (subject : Instance) : Ending → World → Manager → World → Prop
  | ran {config : ClusterConfig} {marks : List Mark} {outcome : Except ActionError Unit} {w w₁ : World} {run : Run}
    (loaded : r.config w = (.ok config, w₁)) (later : w.clock.readings ≤ w₁.clock.readings)
    (ended : r.pipeline.run (r.readied subject config w₁) = (outcome, run))
    (marked : Marked marks (r.readied subject config w₁).request.conditions (r.readied subject config w₁).world.clock
      run.request.conditions run.world.clock)
    (kept : run.request.subject = subject)
    (unwritten : run.world.cluster.object? (subject.key r.resource) = w.cluster.object? (subject.key r.resource)) :
    r.Provisions subject (.ran marks outcome) w run.request.conditions run.world
  | unconfigured {c : Cause} {w w₁ : World} (failed : r.config w = (.error c, w₁))
    (later : w.clock.readings ≤ w₁.clock.readings)
    (unwritten : w₁.cluster.object? (subject.key r.resource) = w.cluster.object? (subject.key r.resource)) :
    r.Provisions subject (.unconfigured c) w (start subject.conditions ready [provisioningSucceeded] w₁.clock).1
      { w₁ with clock := (start subject.conditions ready [provisioningSucceeded] w₁.clock).2 }

/-- The conditions that provisioning starts from. -/
def opening (r : Reconciler) (subject : Instance) : Ending → StateM Clock Manager
  | .ran _ _ => do (← start subject.conditions ready (provisioningSucceeded :: r.dependents)).reset
  | .unconfigured _ => start subject.conditions ready [provisioningSucceeded]

variable {ending : Ending} {m : Manager}

theorem Provisions.provision_eq {ε : Type} (h : r.Provisions subject ending w m w₁) :
    (r.provision subject : Op ε _) w = (.ok (subject, m, ending.outcome), w₁) := by
  cases h with
  | ran loaded _ ended _ kept _ =>
    rw [provision_of_config loaded, ended]
    dsimp only
    rw [kept]
    rfl
  | unconfigured failed _ _ => exact provision_of_error failed

theorem Provisions.object? (h : r.Provisions subject ending w m w₁) :
    w₁.cluster.object? (subject.key r.resource) = w.cluster.object? (subject.key r.resource) := by
  cases h with
  | ran _ _ _ _ _ unwritten => exact unwritten
  | unconfigured _ _ unwritten => exact unwritten

theorem Provisions.marked (h : r.Provisions subject ending w m w₁) : ∃ clock, w.clock.readings ≤ clock.readings ∧
    Marked ending.marks (r.opening subject ending clock).1 (r.opening subject ending clock).2 m w₁.clock := by
  cases h with
  | ran _ later _ marked _ _ => exact ⟨_, later, marked⟩
  | unconfigured _ later _ => exact ⟨_, later, .none (Nat.le_refl _)⟩

/-! ### The reconciliation as a whole -/

/-- A reconciliation with this ending that nobody disturbs: its calls are served, and nobody writes the instance in
    the meantime. -/
structure Undisturbed (r : Reconciler) (subject : Instance) (ending : Ending) (w : World) : Prop where
  fetch : w.Serves (.get r.resource subject.metadata.namespace subject.name) (subject.key r.resource)
  guard : r.finalizer.isSome = true → Marks.finalizer ∉ subject.metadata.finalizerList →
    (r.fetched subject w).Serves (r.replacingFinalizers subject (guarding subject)) (subject.key r.resource)
  provision : ∃ m w₁, r.Provisions subject ending (r.launched subject w) m w₁ ∧ ∀ status,
    w₁.Serves (.patchStatus r.resource subject.metadata.namespace subject.name status) (subject.key r.resource)

/-- The status that conditions make at the end of a run. -/
def concludedStatus (subject : Instance) (ending : Ending) (m : Manager) (clock : Clock) : PlatformStatus :=
  statusOf subject.generation (concluded subject.generation ending.outcome m clock).1 (subject.status.getD {})

/-- The last call writes the status. What is stored then reads as the instance did before, with this status and
    perhaps one more finalizer. -/
theorem Undisturbed.reconcile_snd (h : r.Undisturbed subject ending w)
    (ho : w.cluster.object? (subject.key r.resource) = some o) (hcontent : o.content.Ascending)
    (hread : Instance.ReadsFrom r.resource o subject) (hlive : subject.metadata.isTerminating = false) :
    ∃ m w₁ w₂ o₁ fs, r.Provisions subject ending w₁ m w₂ ∧ w.clock.readings ≤ w₁.clock.readings ∧
      o₁.content.Ascending ∧
      Instance.ReadsFrom r.resource o₁ { subject with metadata := { subject.metadata with finalizers := fs } } ∧
      let s := concludedStatus subject ending m w₂.clock
      let w' := (r.reconcile subject.name subject.metadata.namespace w).2
      w'.clock = (concluded subject.generation ending.outcome m w₂.clock).2.tick ∧
        w'.calls.getLast? =
          some (.patchStatus r.resource subject.metadata.namespace subject.name s.toJson) ∧
        w'.cluster.object? (subject.key r.resource) = some (o₁.withStatus s.toJson) := by
  have hfind := find_served h.fetch ho ((Instance.ofJson?_eq_some hcontent).mpr hread)
  have hfetched : (r.fetched subject w).cluster.object? (subject.key r.resource) = some o :=
    (World.begin_object? h.fetch).trans ho
  obtain ⟨w₁, o₁, fs, hensure, hlater, ho₁, hcontent₁, hread₁⟩ :=
    ensureFinalizer_served h.guard hfetched hcontent hread hlive
  obtain ⟨m, w₂, hprovisions, hserves⟩ := h.provision
  have hlaunched : r.launched subject w = w₁ := congrArg Prod.snd hensure
  rw [hlaunched] at hprovisions
  refine ⟨m, w₁, w₂, o₁, fs, hprovisions, hlater, hcontent₁, hread₁, ?_⟩
  -- The status is written in the world that provisioning leaves, and what follows touches the memory only.
  let s := concludedStatus subject ending m w₂.clock
  let timed : World := { w₂ with clock := (concluded subject.generation ending.outcome m w₂.clock).2 }
  have hserved : timed.Serves (.patchStatus r.resource subject.metadata.namespace subject.name s.toJson)
      (.ofResource r.resource subject.metadata.namespace subject.name) := hserves s.toJson
  have hobject : timed.cluster.object? (.ofResource r.resource subject.metadata.namespace subject.name) = some o₁ :=
    hprovisions.object?.trans ho₁
  have happly : (r.apply subject (r.fetched subject w)).2 =
      (World.patchStatus r.resource subject.metadata.namespace subject.name s.toJson timed).2 :=
    apply_snd hensure hprovisions.provision_eq
  obtain ⟨memory, hfinished⟩ := bind_finish_snd r subject.name subject.metadata.namespace (r.apply subject)
    (r.fetched subject w)
  rw [reconcile_of_live hfind hlive, hfinished, happly, World.patchStatus_serves hserved hobject]
  refine ⟨rfl, List.getLast?_concat, ?_⟩
  exact (Cluster.object?_put _ _ _ _).trans (if_pos rfl)

end Reconciler
end PlatformOperator
