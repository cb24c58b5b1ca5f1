import Mathlib.Algebra.Order.Group.Nat
import Mathlib.Data.List.Basic
import PlatformOperator.Proofs.Reconciler.Dispatch
import PlatformOperator.Proofs.World.Leaving

/-! The delays before retries, over any history. The delay after a failure goes by how often that instance failed since
    it was last reconciled with success, whatever happens to other instances in between. -/

namespace PlatformOperator

/-! ### Delays -/

namespace Backoff

/-- All numbers between the count and the delay are within the words they are computed in: the exponent and the factor
    are of 32 bits, the seconds of 64. -/
structure Fits (failures : Nat) : Prop where
  count : failures < wordSize 32
  shift : min (failures - 1) 16 < 32
  factor : 2 ^ min (failures - 1) 16 < wordSize 32
  seconds : base * 2 ^ min (failures - 1) 16 < wordSize 64

/-- The bound on the exponent makes no difference: beyond it the delay is at its limit. -/
theorem delay_eq (failures : Nat) : delay failures = min (5 * 2 ^ (failures - 1)) 300 := by
  show min (5 * 2 ^ min (failures - 1) 16) 300 = _
  by_cases h : failures - 1 ≤ 16
  · rw [min_eq_left h]
  · have hlarge : 2 ^ 16 ≤ 2 ^ (failures - 1) := Nat.pow_le_pow_right (by decide) (by omega)
    rw [min_eq_right (by omega : 16 ≤ failures - 1)]
    omega

theorem increment_eq (failures : Nat) : increment failures = min (failures + 1) (2 ^ 32 - 1) := rfl

/-- A count that saturates at every step is the saturated count. -/
theorem increment_min (n : Nat) : increment (min n (2 ^ 32 - 1)) = min (n + 1) (2 ^ 32 - 1) := by
  rw [increment_eq]
  omega

theorem fits {failures : Nat} (h : failures < 2 ^ 32) : Fits failures := by
  have hfactor : 2 ^ min (failures - 1) 16 ≤ 2 ^ 16 := Nat.pow_le_pow_right (by decide) (min_le_right _ _)
  refine ⟨h, by omega, ?_, ?_⟩
  · show 2 ^ min (failures - 1) 16 < 2 ^ 32
    omega
  · show 5 * 2 ^ min (failures - 1) 16 < 2 ^ 64
    omega

end Backoff

/-! ### Instances by name -/

/-- An instance by its namespace, if it has one, and its name. -/
structure InstanceName where
  «namespace» : Option String
  name : String
  deriving DecidableEq

namespace InstanceName
variable {i j : InstanceName}

def key (i : InstanceName) : String := Reconciler.key i.namespace i.name

/-- Neither name nor namespace has a slash. -/
structure Plain (i : InstanceName) : Prop where
  name : '/' ∉ i.name.toList
  «namespace» : ∀ ns, i.namespace = some ns → '/' ∉ ns.toList

/-- Without slashes in the parts, the slash between them tells what is what. -/
theorem Plain.key_inj (hi : i.Plain) (hj : j.Plain) : i.key = j.key ↔ i = j := by
  refine ⟨fun h => ?_, fun h => by rw [h]⟩
  obtain ⟨ns, n⟩ := i
  obtain ⟨ns', n'⟩ := j
  have htext : (Reconciler.key ns n).toList = (Reconciler.key ns' n').toList := congrArg String.toList h
  cases ns with
  | none =>
    cases ns' with
    | none => exact congrArg _ h
    | some ns' =>
      simp only [Reconciler.key, String.toList_append] at htext
      exact absurd (by rw [htext]; simp) hi.name
  | some ns =>
    cases ns' with
    | none =>
      simp only [Reconciler.key, String.toList_append] at htext
      exact absurd (by rw [← htext]; simp) hj.name
    | some ns' =>
      have hsplit : ns.toList ++ '/' :: n.toList = ns'.toList ++ '/' :: n'.toList := by
        simpa [Reconciler.key, String.toList_append] using htext
      obtain ⟨hns, -, hn⟩ := (List.append_cons_inj_of_notMem (hi.namespace _ rfl) hi.name).mp hsplit
      have hname : n = n' := String.toList_inj.mp hn
      rw [String.toList_inj.mp hns, hname]

end InstanceName

namespace Reconciler
open Computation
variable {r : Reconciler} {i j : InstanceName} {e : ReconcileError} {w w' : World}

/-! ### What reconciliations do to the counts -/

/-- Nothing that the reconciler runs touches its counts of failures. -/
structure CountsAlone (r : Reconciler) : Prop where
  config : r.config.Leaves r.failures
  actions : ∀ a ∈ r.pipeline.actions, a.run.Leaves r.failures
  finalizer : ∀ p, r.finalizer = some p → ∀ a ∈ p.actions, a.run.Leaves r.failures

theorem failures_setFailures (counts : Dict Nat) (w : World) : r.failures (r.setFailures counts w) = counts := by
  unfold failures setFailures
  rw [Dict.get?_insert, if_pos rfl]
  rfl

/-- A failure of one instance counts for that one alone. -/
theorem failures_counted (k k' : String) (n : Nat) (w : World) :
    ((r.failures (r.setFailures ((r.failures w).insert k n) w)).get? k').getD 0 =
      if k' = k then n else ((r.failures w).get? k').getD 0 := by
  rw [failures_setFailures, Dict.get?_insert]
  split <;> rfl

section
variable (alone : r.CountsAlone) (name : String) («namespace» : Option String)

/-- Failures are remembered. -/
theorem leaves_failures {ε α : Type} {x : Op ε α} (hx : x.Leaves (·.memory)) : x.Leaves r.failures :=
  hx.mono fun _ _ h => congrArg (fun m : Memory => (m.failures.get? r.name).getD []) h

theorem find_leaves : (r.find name «namespace»).Leaves r.failures := by
  refine Moves.bind (Moves.mapError ?_) fun found => ?_
  · exact leaves_failures (World.getObject_leaves_memory _ _ _)
  · cases found with
    | none => exact .pure _
    | some o =>
      dsimp only
      cases Instance.ofJson? r.resource o.toJson with
      | none => exact .throw _
      | some subject => exact .pure _

theorem updateFinalizers_leaves (subject : Instance) (fs : List String) :
    (r.updateFinalizers subject fs).Leaves r.failures :=
  Moves.bind (leaves_failures World.begin_change_leaves_memory).mapError fun _ => .pure _

theorem runPipeline_leaves {ε : Type} {p : Pipeline} (h : ∀ a ∈ p.actions, a.run.Leaves r.failures)
    (request : Request) : (runPipeline p request : Op ε _).Leaves r.failures :=
  fun w => Pipeline.runAll_moves h ⟨w, request⟩

include alone in
theorem request_leaves (subject : Instance) : (r.request subject).Leaves r.failures :=
  Moves.bind alone.config fun _ _ => rfl

include alone in
theorem delete_leaves (subject : Instance) : (r.delete subject).Leaves r.failures := by
  unfold Reconciler.delete
  split
  · exact .pure _
  · cases hp : r.finalizer with
    | none => exact updateFinalizers_leaves _ _
    | some p =>
      refine Moves.bind ?_ fun _ => updateFinalizers_leaves _ _
      refine Moves.bind (request_leaves alone subject).mapError fun request => ?_
      refine Moves.bind (runPipeline_leaves (alone.finalizer p hp) _) fun ended => ?_
      rcases ended with ⟨_, e | _⟩
      · dsimp only
        split
        · exact .throw _
        · exact .pure _
      · exact .pure _

include alone in
theorem apply_leaves (subject : Instance) : (r.apply subject).Leaves r.failures := by
  refine Moves.bind ?_ fun _ => Moves.bind ?_ fun provisioned => ?_
  · unfold ensureFinalizer
    dsimp only
    split
    · exact updateFinalizers_leaves _ _
    · exact .pure _
  · refine Moves.bind (request_leaves alone subject).outcome fun requested => ?_
    cases requested with
    | error c => exact Moves.bind (fun _ => rfl) fun _ => .pure _
    | ok request =>
      refine Moves.bind (fun _ => rfl) fun _ => ?_
      exact Moves.bind (runPipeline_leaves alone.actions _) fun _ => .pure _
  · obtain ⟨after, m, outcome⟩ := provisioned
    refine Moves.bind (fun _ => rfl) fun conditions => Moves.bind ?_ fun _ => ?_
    · intro w
      rw [writeStatus_snd]
      exact leaves_failures World.begin_change_leaves_memory w
    · cases outcome with
      | ok => exact .pure _
      | error e => exact .throw _

/-- What ends with success ends by forgetting, and nothing else forgets. -/
theorem bind_finish_failures {x : Op ReconcileError Unit} (hx : x.Leaves r.failures) (w : World) :
    r.failures ((x >>= fun _ => r.finish name «namespace») w).2 =
      if ((x >>= fun _ => r.finish name «namespace») w).1.isOk then (r.failures w).erase (key «namespace» name)
      else r.failures w := by
  have hleft := hx.eq w
  rcases h : x w with ⟨e | _, w₁⟩ <;> rw [h] at hleft
  · rw [bind_error h]
    exact hleft
  · rw [bind_ok h]
    show r.failures (r.setFailures _ w₁) = (r.failures w).erase _
    rw [failures_setFailures, hleft]

include alone in
/-- A reconciliation that succeeds forgets the failures of its instance. One that fails leaves all counts. -/
theorem reconcile_failures (w : World) :
    r.failures (r.reconcile name «namespace» w).2 =
      if (r.reconcile name «namespace» w).1.isOk then (r.failures w).erase (key «namespace» name)
      else r.failures w := by
  have hleft := (find_leaves (r := r) name «namespace»).eq w
  rcases hfind : r.find name «namespace» w with ⟨e | _ | subject, w₁⟩ <;> rw [hfind] at hleft
  · rw [reconcile_of_error hfind]
    exact hleft
  · rw [reconcile_of_none hfind, ← hleft]
    exact bind_finish_failures name «namespace» (.pure ()) w₁
  · cases hterm : subject.metadata.isTerminating with
    | true =>
      rw [reconcile_of_terminating hfind hterm, ← hleft]
      exact bind_finish_failures name «namespace» (delete_leaves alone subject) w₁
    | false =>
      rw [reconcile_of_live hfind hterm, ← hleft]
      exact bind_finish_failures name «namespace» (apply_leaves alone subject) w₁

end

/-! ### Histories -/

/-- What happened with an instance. -/
inductive Entry where
  /-- A reconciliation came to its end, of an instance or of one that is gone. -/
  | succeeded (i : InstanceName)
  | failed (i : InstanceName)
  /-- The policy was asked what follows this failure. -/
  | answered (i : InstanceName) (e : ReconcileError)

namespace Entry

def «instance» : Entry → InstanceName
  | succeeded i | failed i | answered i _ => i

/-- A success of the instance, after which its failures count anew. -/
def resets (i : InstanceName) : Entry → Bool
  | succeeded j => j == i
  | _ => false

/-- A failure of the instance that is no stop, as the policy got it. -/
def counts (i : InstanceName) : Entry → Bool
  | answered j e => j == i && !e.isStop
  | _ => false

end Entry

/-- How many failures of an instance the policy got since its last success, the newest entries of the log first. -/
def tally (log : List Entry) (i : InstanceName) : Nat := (log.takeWhile (!·.resets i)).countP (·.counts i)

/-- The world after what the log says, newest entries first, from one without counts on. Whatever happens besides, to
    the cluster or to the rest of the operator, leaves the counts alone. -/
inductive History (r : Reconciler) : List Entry → World → Prop
  | start {w : World} (fresh : r.failures w = []) : History r [] w
  | succeeded {log : List Entry} {w w' : World} {next : NextStep} (i : InstanceName) (before : History r log w)
    (ended : r.reconcile i.name i.namespace w = (.ok next, w')) : History r (.succeeded i :: log) w'
  | failed {log : List Entry} {w w' : World} {e : ReconcileError} (i : InstanceName) (before : History r log w)
    (ended : r.reconcile i.name i.namespace w = (.error e, w')) : History r (.failed i :: log) w'
  | answered {log : List Entry} {w : World} (i : InstanceName) (e : ReconcileError) (before : History r log w) :
    History r (.answered i e :: log) (r.errorPolicy i.name i.namespace e w).2
  | elsewhere {log : List Entry} {w w' : World} (before : History r log w) (alone : r.failures w' = r.failures w) :
    History r log w'

section
variable {log : List Entry}

theorem tally_succeeded (i j : InstanceName) :
    tally (.succeeded j :: log) i = if i = j then 0 else tally log i := by
  unfold tally
  by_cases h : i = j
  · simp [Entry.resets, h]
  · simp [Entry.resets, Entry.counts, h, Ne.symm h]

theorem tally_failed (i j : InstanceName) : tally (.failed j :: log) i = tally log i := by
  simp [tally, Entry.resets, Entry.counts]

theorem tally_stopped (i j : InstanceName) (h : e.isStop = true) :
    tally (.answered j e :: log) i = tally log i := by
  simp [tally, Entry.resets, Entry.counts, h]

theorem tally_answered (i j : InstanceName) (h : e.isStop = false) :
    tally (.answered j e :: log) i = if i = j then tally log i + 1 else tally log i := by
  unfold tally
  by_cases hij : i = j
  · simp [Entry.resets, Entry.counts, h, hij]
  · simp [Entry.resets, Entry.counts, h, hij, Ne.symm hij]

/-- The stored count of every instance is its tally, up to the largest number of 32 bits. -/
def Counted (r : Reconciler) (log : List Entry) (w : World) : Prop :=
  ∀ i : InstanceName, i.Plain → ((r.failures w).get? i.key).getD 0 = min (tally log i) (2 ^ 32 - 1)

/-- What the policy does, by the key of the instance. -/
theorem errorPolicy_counts (h : e.isStop = false) (i : InstanceName) (w : World) :
    let count := Backoff.increment (((r.failures w).get? i.key).getD 0)
    r.errorPolicy i.name i.namespace e w =
      (.requeue (Backoff.delay count), r.setFailures ((r.failures w).insert i.key count) w) :=
  errorPolicy_of_failure h

theorem Counted.answer (h : r.Counted log w) (hplain : j.Plain) (e : ReconcileError) :
    r.Counted (.answered j e :: log) (r.errorPolicy j.name j.namespace e w).2 := by
  intro i hi
  cases hstop : e.isStop with
  | true =>
    rw [errorPolicy_of_stop hstop, tally_stopped i j hstop]
    exact h i hi
  | false =>
    rw [errorPolicy_counts hstop j w, failures_counted, tally_answered i j hstop]
    by_cases hij : i = j
    · subst hij
      rw [if_pos rfl, if_pos rfl, h i hi, Backoff.increment_min]
    · rw [if_neg hij, if_neg ((hi.key_inj hplain).not.mpr hij)]
      exact h i hi

theorem Counted.success (h : r.Counted log w) (hplain : j.Plain)
    (hfailures : r.failures w' = (r.failures w).erase j.key) : r.Counted (.succeeded j :: log) w' := by
  intro i hi
  rw [hfailures, Dict.get?_erase, tally_succeeded]
  by_cases hij : i = j
  · rw [if_pos hij, if_pos (by rw [hij])]
    rfl
  · rw [if_neg hij, if_neg ((hi.key_inj hplain).not.mpr hij)]
    exact h i hi

theorem History.counted (h : r.History log w) (alone : r.CountsAlone) (plain : ∀ x ∈ log, x.instance.Plain) :
    r.Counted log w := by
  induction h with
  | start fresh =>
    intro i _
    rw [fresh]
    rfl
  | @succeeded log w w' next j _ ended ih =>
    have hbefore := ih fun x hx => plain x (List.mem_cons_of_mem _ hx)
    refine hbefore.success (plain _ List.mem_cons_self) ?_
    have hfailures := reconcile_failures alone j.name j.namespace w
    rw [ended] at hfailures
    exact hfailures
  | @failed log w w' e j _ ended ih =>
    have hbefore := ih fun x hx => plain x (List.mem_cons_of_mem _ hx)
    have hfailures := reconcile_failures alone j.name j.namespace w
    rw [ended] at hfailures
    intro i hi
    rw [tally_failed, ← hbefore i hi]
    exact congrArg (fun d : Dict Nat => (d.get? i.key).getD 0) hfailures
  | answered j e _ ih =>
    exact (ih fun x hx => plain x (List.mem_cons_of_mem _ hx)).answer (plain _ List.mem_cons_self) e
  | elsewhere _ hsame ih =>
    intro i hi
    rw [hsame]
    exact ih plain i hi

/-- After any history the policy answers a stop by waiting for a change, and counts nothing. Any other failure it
    answers with a delay that is exact for the number of failures of this instance since its last success, and no
    number is too large for its word on the way. -/
theorem History.backoff (h : r.History log w) (alone : r.CountsAlone) (plain : ∀ x ∈ log, x.instance.Plain)
    (hi : i.Plain) (e : ReconcileError) :
    (e.isStop = true → r.errorPolicy i.name i.namespace e w = (.awaitChange, w)) ∧
    (e.isStop = false →
      let n := min (tally (.answered i e :: log) i) (2 ^ 32 - 1)
      (r.errorPolicy i.name i.namespace e w).1 = .requeue (min (5 * 2 ^ (n - 1)) 300) ∧
        ((r.failures (r.errorPolicy i.name i.namespace e w).2).get? i.key) = some n ∧ Backoff.Fits n) := by
  refine ⟨errorPolicy_of_stop, fun hfailure => ?_⟩
  intro n
  have hcount : Backoff.increment (((r.failures w).get? i.key).getD 0) = n := by
    rw [h.counted alone plain i hi, Backoff.increment_min]
    show _ = min (tally (.answered i e :: log) i) _
    rw [tally_answered i i hfailure, if_pos rfl]
  rw [errorPolicy_counts hfailure i w, hcount]
  refine ⟨congrArg _ (Backoff.delay_eq n), ?_, Backoff.fits ?_⟩
  · rw [failures_setFailures, Dict.get?_insert, if_pos rfl]
  · exact lt_of_le_of_lt (min_le_right _ _) (by decide)

end

namespace Sample

theorem finalizing_countsAlone : finalizing.CountsAlone where
  config _ := rfl
  actions a ha := by
    rw [List.mem_singleton.mp ha]
    exact fun _ => rfl
  finalizer p hp a ha := by
    cases hp
    rw [List.mem_singleton.mp ha]
    exact fun _ => rfl

def missing₁ : InstanceName := ⟨none, "d"⟩

/-- Another instance, of the same name. -/
def missing₂ : InstanceName := ⟨some "apps", "d"⟩

def failing : ReconcileError := .provision (.retryable (.plain "not yet"))

def pausing : ReconcileError := .provision (.stop (.plain "paused"))

/-- The instance fails twice, is gone, and then fails once more, as does the other one. It also stops once. -/
def entries : List Entry :=
  [.answered missing₁ pausing, .answered missing₂ failing, .answered missing₁ failing, .succeeded missing₁,
    .answered missing₁ failing, .answered missing₁ failing]

theorem missing_plain : missing₁.Plain ∧ missing₂.Plain :=
  ⟨⟨by decide, fun ns h => (by cases h)⟩, ⟨by decide, fun ns h => (by cases h; decide)⟩⟩

theorem entries_history : ∃ w, finalizing.History entries w := by
  have htwice : finalizing.History [.answered missing₁ failing, .answered missing₁ failing] _ :=
    .answered _ _ (.answered _ _ (.start (w := {}) rfl))
  exact ⟨_, .answered _ _ (.answered _ _ (.answered _ _ (.succeeded _ htwice rfl)))⟩

end Sample

open Reconciler.Sample in
/-- The next failure is the second one after the success, whatever happened to the other instance. -/
theorem History.backoff_sample : ∃ w, finalizing.History entries w ∧
    finalizing.errorPolicy "d" none pausing w = (.awaitChange, w) ∧
      (finalizing.errorPolicy "d" none failing w).1 = .requeue 10 ∧
        (finalizing.failures (finalizing.errorPolicy "d" none failing w).2).get? "d" = some 2 := by
  obtain ⟨w, hhistory⟩ := entries_history
  have plain : ∀ x ∈ entries, x.instance.Plain := by
    obtain ⟨hone, htwo⟩ := missing_plain
    intro x hx
    simp only [entries, List.mem_cons, List.not_mem_nil, or_false] at hx
    rcases hx with rfl | rfl | rfl | rfl | rfl | rfl
    exacts [hone, htwo, hone, hone, hone, hone]
  obtain ⟨hstop, -⟩ := hhistory.backoff finalizing_countsAlone plain missing_plain.1 pausing
  obtain ⟨-, hfailure⟩ := hhistory.backoff finalizing_countsAlone plain missing_plain.1 failing
  have hn : min (tally (.answered missing₁ failing :: entries) missing₁) (2 ^ 32 - 1) = 2 := by decide
  have hanswer := hfailure rfl
  rw [hn] at hanswer
  exact ⟨w, hhistory, hstop rfl, hanswer.1, hanswer.2.1⟩

end Reconciler
end PlatformOperator
