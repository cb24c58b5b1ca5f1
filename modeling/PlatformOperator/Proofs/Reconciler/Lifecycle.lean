import PlatformOperator.Proofs.Reconciler.Finalizer
import PlatformOperator.Proofs.World.Leaving

/-! No instance escapes its finalizer: an instance for which the pipeline ever started stays in the cluster,
    whatever users and failing calls do, until its finalizer ended or stopped. -/

namespace PlatformOperator

/-! ### Where pipelines start -/

/-- The pipeline of one action that does `f`. -/
def Pipeline.ofRun (f : RunM Unit) : Pipeline := ⟨"", [⟨"", f⟩]⟩

theorem Pipeline.run_ofRun (f : RunM Unit) : (Pipeline.ofRun f).run = f := by
  funext run
  rcases h : f run with ⟨e | _, run'⟩
  · exact Computation.bind_error h
  · exact Computation.bind_ok h

namespace Reconciler
open Cluster
variable {r : Reconciler} {subject : Instance} {name : String} {«namespace» : Option String} {w w₁ w₂ w' : World}
  {p : Pipeline} {config : ClusterConfig} {request : Request} {e : ReconcileError} {run : Run}

/-- In the reconciliation of a name the pipeline starts from `run`: what it does there, and there alone, makes
    a difference. -/
def Starts (r : Reconciler) (name : String) («namespace» : Option String) (w : World) (run : Run) : Prop :=
  ∃ p : Pipeline, (∀ run', run' ≠ run → p.run run' = r.pipeline.run run') ∧
    { r with pipeline := p }.reconcile name «namespace» w ≠ r.reconcile name «namespace» w

/-- In the reconciliation of a name the finalizer starts from `run`. -/
def Finalizes (r : Reconciler) (name : String) («namespace» : Option String) (w : World) (run : Run) : Prop :=
  ∃ p q : Pipeline, r.finalizer = some p ∧ (∀ run', run' ≠ run → q.run run' = p.run run') ∧
    { r with finalizer := some q }.reconcile name «namespace» w ≠ r.reconcile name «namespace» w

/-! ### Reconciliations by what they find -/

/-- The end of a reconciliation that did not fail. -/
def finish (r : Reconciler) (name : String) («namespace» : Option String) : Op ReconcileError NextStep := do
  modify (r.forget (key «namespace» name))
  return .awaitChange

theorem reconcile_of_error (h : r.find name «namespace» w = (.error e, w₁)) :
    r.reconcile name «namespace» w = (.error e, w₁) :=
  Computation.bind_error h

theorem reconcile_of_none (h : r.find name «namespace» w = (.ok none, w₁)) :
    r.reconcile name «namespace» w = r.finish name «namespace» w₁ :=
  Computation.bind_ok h

theorem reconcile_of_terminating (h : r.find name «namespace» w = (.ok (some subject), w₁))
    (hterm : subject.metadata.isTerminating = true) :
    r.reconcile name «namespace» w = (r.delete subject >>= fun _ => r.finish name «namespace») w₁ := by
  refine (Computation.bind_ok h).trans ?_
  dsimp only
  rw [if_pos hterm]
  rfl

theorem reconcile_of_live (h : r.find name «namespace» w = (.ok (some subject), w₁))
    (hlive : subject.metadata.isTerminating = false) :
    r.reconcile name «namespace» w = (r.apply subject >>= fun _ => r.finish name «namespace») w₁ := by
  refine (Computation.bind_ok h).trans ?_
  dsimp only
  rw [if_neg (by simp [hlive])]
  rfl

/-- The end of a reconciliation touches the memory of the operator only. -/
theorem bind_finish_snd (r : Reconciler) (name : String) («namespace» : Option String) (x : Op ReconcileError Unit)
    (w : World) : ∃ memory, ((x >>= fun _ => r.finish name «namespace») w).2 = { (x w).2 with memory } := by
  rcases h : x w with ⟨e | _, w₁⟩
  · rw [Computation.bind_error h]
    exact ⟨w₁.memory, rfl⟩
  · rw [Computation.bind_ok h]
    exact ⟨_, rfl⟩

theorem bind_finish_journal {x : Op ReconcileError Unit} :
    ((x >>= fun _ => r.finish name «namespace») w).2.journal = (x w).2.journal := by
  obtain ⟨memory, hfinished⟩ := bind_finish_snd r name «namespace» x w
  rw [hfinished]

/-! ### The pipeline's start -/

/-- The pipeline starts once a live instance is found, its finalizer is ensured and the configuration is
    loaded. -/
structure Readies (r : Reconciler) (name : String) («namespace» : Option String) (w : World) (subject : Instance)
    (w₁ w₂ w₃ : World) (config : ClusterConfig) : Prop where
  found : r.find name «namespace» w = (.ok (some subject), w₁)
  live : subject.metadata.isTerminating = false
  ensured : r.ensureFinalizer subject w₁ = (.ok (), w₂)
  loaded : r.config w₂ = (.ok config, w₃)

theorem apply_journal {m : Manager} {after : Instance} {outcome : Except ActionError Unit}
    (hensure : r.ensureFinalizer subject w = (.ok (), w₁))
    (hprovision : (r.provision subject : Op ReconcileError _) w₁ = (.ok (after, m, outcome), w₂)) :
    (r.apply subject w).2.journal = w₂.journal := by
  rw [apply_snd hensure hprovision]
  exact World.begin_change_leaves_journal _

/-- What the pipeline notes down stays. -/
theorem Readies.journal {w₃ : World} (h : r.Readies name «namespace» w subject w₁ w₂ w₃ config) :
    (r.reconcile name «namespace» w).2.journal = (r.pipeline.run (r.readied subject config w₃)).2.world.journal := by
  rw [reconcile_of_live h.found h.live, bind_finish_journal]
  exact apply_journal h.ensured (provision_of_config h.loaded)

/-- Provisioning depends on the pipeline where it starts, and on nothing else of it. -/
theorem provision_congr {ε : Type}
    (h : ∀ config w₁, r.config w = (.ok config, w₁) →
      p.run (r.readied subject config w₁) = r.pipeline.run (r.readied subject config w₁)) :
    ({ r with pipeline := p }.provision subject : Op ε _) w = r.provision subject w := by
  rcases hconfig : r.config w with ⟨c | config, w₁⟩
  · exact (provision_of_error (r := { r with pipeline := p }) hconfig).trans (provision_of_error hconfig).symm
  · rw [provision_of_config hconfig, ← h config w₁ hconfig]
    exact provision_of_config (r := { r with pipeline := p }) hconfig

theorem apply_congr
    (h : ∀ config w₁ w₂, r.ensureFinalizer subject w = (.ok (), w₁) → r.config w₁ = (.ok config, w₂) →
      p.run (r.readied subject config w₂) = r.pipeline.run (r.readied subject config w₂)) :
    { r with pipeline := p }.apply subject w = r.apply subject w :=
  Computation.bind_congr rfl fun _ w₁ hensure =>
    Computation.bind_congr (provision_congr fun config w₂ => h config w₁ w₂ hensure) fun _ _ _ => rfl

theorem reconcile_congr
    (h : ∀ subject w₁ w₂ w₃ config, r.Readies name «namespace» w subject w₁ w₂ w₃ config →
      p.run (r.readied subject config w₃) = r.pipeline.run (r.readied subject config w₃)) :
    { r with pipeline := p }.reconcile name «namespace» w = r.reconcile name «namespace» w := by
  refine Computation.bind_congr rfl fun found w₁ hfind => ?_
  cases found with
  | none => rfl
  | some subject =>
    dsimp only
    cases hterm : subject.metadata.isTerminating with
    | true => rfl
    | false =>
      refine Computation.bind_congr (apply_congr fun config w₂ w₃ hensure hconfig => ?_) fun _ _ _ => rfl
      exact h subject w₁ w₂ w₃ config ⟨hfind, hterm, hensure, hconfig⟩

open Classical in
/-- The pipeline starts just from where it is readied. -/
theorem starts_iff : r.Starts name «namespace» w run ↔
    ∃ subject w₁ w₂ w₃ config, r.Readies name «namespace» w subject w₁ w₂ w₃ config ∧
      run = r.readied subject config w₃ := by
  constructor
  · rintro ⟨q, hsame, hne⟩
    by_contra hnot
    refine hne (reconcile_congr fun subject w₁ w₂ w₃ config hready => hsame _ ?_)
    rintro rfl
    exact hnot ⟨subject, w₁, w₂, w₃, config, hready, rfl⟩
  · rintro ⟨subject, w₁, w₂, w₃, config, hready, rfl⟩
    -- A pipeline that notes down one thing more there leaves another world.
    let run := r.readied subject config w₃
    let noted : Run := { (r.pipeline.run run).2 with world := (r.pipeline.run run).2.world.record (.action "") }
    let q := Pipeline.ofRun fun run' => if run' = run then ((r.pipeline.run run).1, noted) else r.pipeline.run run'
    refine ⟨q, fun run' hrun' => ?_, fun heq => ?_⟩
    · rw [Pipeline.run_ofRun, if_neg hrun']
    · have hready' : { r with pipeline := q }.Readies name «namespace» w subject w₁ w₂ w₃ config :=
        ⟨hready.found, hready.live, hready.ensured, hready.loaded⟩
      have hq : q.run run = ((r.pipeline.run run).1, noted) := by rw [Pipeline.run_ofRun, if_pos rfl]
      have hjournal : (q.run run).2.world.journal = (r.pipeline.run run).2.world.journal :=
        hready'.journal.symm.trans ((congrArg (World.journal ·.2) heq).trans hready.journal)
      rw [hq] at hjournal
      simp [noted, World.record] at hjournal

/-! ### The finalizer's start -/

/-- The finalizer starts once a terminating instance that holds it is found and the request is made. -/
structure Awaits (r : Reconciler) (name : String) («namespace» : Option String) (w : World) (subject : Instance)
    (w₁ w₂ : World) (request : Request) : Prop where
  found : r.find name «namespace» w = (.ok (some subject), w₁)
  terminating : subject.metadata.isTerminating = true
  held : Marks.finalizer ∈ subject.metadata.finalizerList
  requested : r.request subject w₁ = (.ok request, w₂)

theorem Awaits.reconcile_eq (h : r.Awaits name «namespace» w subject w₁ w₂ request) (hp : r.finalizer = some p) :
    r.reconcile name «namespace» w = (r.finalize subject p >>= fun _ =>
      r.updateFinalizers subject (subject.metadata.finalizerList.filter (· != Marks.finalizer)) >>= fun _ =>
        r.finish name «namespace») w₁ := by
  rw [reconcile_of_terminating h.found h.terminating]
  refine (Computation.bind_congr (delete_of_held h.held hp) fun _ _ _ => rfl).trans ?_
  rw [bind_assoc]

/-- What the finalizer notes down stays. -/
theorem Awaits.journal (h : r.Awaits name «namespace» w subject w₁ w₂ request) (hp : r.finalizer = some p) :
    (r.reconcile name «namespace» w).2.journal = (p.run ⟨w₂, request⟩).2.world.journal := by
  rw [h.reconcile_eq hp]
  have hfinal := finalize_of_request (p := p) h.requested
  rcases hended : finalized subject (p.run ⟨w₂, request⟩).1 with e | _ <;> rw [hended] at hfinal
  · rw [Computation.bind_error hfinal]
  · rw [Computation.bind_ok hfinal, bind_finish_journal, updateFinalizers_snd]
    exact World.begin_change_leaves_journal _

theorem reconcile_congr_finalizer {q : Pipeline} (hp : r.finalizer = some p)
    (h : ∀ subject w₁ w₂ request, r.Awaits name «namespace» w subject w₁ w₂ request →
      q.run ⟨w₂, request⟩ = p.run ⟨w₂, request⟩) :
    { r with finalizer := some q }.reconcile name «namespace» w = r.reconcile name «namespace» w := by
  refine Computation.bind_congr rfl fun found w₁ hfind => ?_
  cases found with
  | none => rfl
  | some subject =>
    dsimp only
    cases hterm : subject.metadata.isTerminating with
    | false =>
      refine Computation.bind_congr (Computation.bind_congr ?_ fun _ _ _ => rfl) fun _ _ _ => rfl
      unfold ensureFinalizer
      rw [hp]
      rfl
    | true =>
      refine Computation.bind_congr ?_ fun _ _ _ => rfl
      by_cases hheld : Marks.finalizer ∈ subject.metadata.finalizerList
      · refine (delete_of_held (r := { r with finalizer := some q }) hheld rfl).trans ?_
        rw [delete_of_held hheld hp]
        refine Computation.bind_congr ?_ fun _ _ _ => rfl
        rcases hrequest : r.request subject w₁ with ⟨c | request, w₂⟩
        · exact (finalize_of_error (r := { r with finalizer := some q }) hrequest).trans
            (finalize_of_error hrequest).symm
        · rw [finalize_of_request hrequest, ← h subject w₁ w₂ request ⟨hfind, hterm, hheld, hrequest⟩]
          exact finalize_of_request (r := { r with finalizer := some q }) hrequest
      · exact (delete_of_not_held (r := { r with finalizer := some q }) hheld).trans (delete_of_not_held hheld).symm

open Classical in
/-- The finalizer starts just from where it is awaited. -/
theorem finalizes_iff (hp : r.finalizer = some p) : r.Finalizes name «namespace» w run ↔
    ∃ subject w₁ w₂ request, r.Awaits name «namespace» w subject w₁ w₂ request ∧ run = ⟨w₂, request⟩ := by
  constructor
  · rintro ⟨p', q, hp', hsame, hne⟩
    cases hp.symm.trans hp'
    by_contra hnot
    refine hne (reconcile_congr_finalizer hp fun subject w₁ w₂ request hawaits => hsame _ ?_)
    rintro rfl
    exact hnot ⟨subject, w₁, w₂, request, hawaits, rfl⟩
  · rintro ⟨subject, w₁, w₂, request, hawaits, rfl⟩
    let run : Run := ⟨w₂, request⟩
    let noted : Run := { (p.run run).2 with world := (p.run run).2.world.record (.action "") }
    let q := Pipeline.ofRun fun run' => if run' = run then ((p.run run).1, noted) else p.run run'
    refine ⟨p, q, hp, fun run' hrun' => ?_, fun heq => ?_⟩
    · rw [Pipeline.run_ofRun, if_neg hrun']
    · have hawaits' : { r with finalizer := some q }.Awaits name «namespace» w subject w₁ w₂ request :=
        ⟨hawaits.found, hawaits.terminating, hawaits.held, hawaits.requested⟩
      have hq : q.run run = ((p.run run).1, noted) := by rw [Pipeline.run_ofRun, if_pos rfl]
      have hjournal : (q.run run).2.world.journal = (p.run run).2.world.journal :=
        (hawaits'.journal rfl).symm.trans ((congrArg (World.journal ·.2) heq).trans (hawaits.journal hp))
      rw [hq] at hjournal
      simp [noted, World.record] at hjournal

/-! ### Whole reconciliations -/

theorem find_key (quiet : w.Quiet) (hplace : w.cluster.InPlace r.resource)
    (h : r.find name «namespace» w = (.ok (some subject), w₁)) :
    subject.key r.resource = .ofResource r.resource «namespace» name := by
  obtain ⟨o, ho, hkeeps, -⟩ := find_eq_some quiet h
  obtain ⟨hnamespace, hname⟩ := hplace _ o ⟨rfl, rfl⟩ ho
  have hsubject : subject.name = o.name := by
    show subject.metadata.nameAny = o.metadata.nameAny
    unfold ObjectMeta.nameAny
    rw [hkeeps.name id, hkeeps.generateName id]
  show Key.ofResource r.resource subject.metadata.namespace subject.name = _
  rw [hkeeps.namespace id, hnamespace, hsubject, hname]
  rfl

/-- The finalizer of the instance ended or stopped in the reconciliation. -/
def Releases (r : Reconciler) (p : Pipeline) (name : String) («namespace» : Option String) (w : World) : Prop :=
  ∃ run, r.Finalizes name «namespace» w run ∧ ¬∃ c, (p.run run).1 = .error (.retryable c)

theorem finish_safe {free : Key → Prop} (quiet : w.Quiet) :
    Safe r.resource free w (r.finish name «namespace» w).2 := forget_safe quiet _

/-- A reconciliation lets an instance go only if its finalizer ended or stopped in it. -/
theorem reconcile_safe (hp : r.finalizer = some p) (discreet : ∀ a ∈ r.pipeline.actions, a.Discreet r.resource)
    (discreet' : ∀ a ∈ p.actions, a.Discreet r.resource) (spares : r.config.Spares (Key.IsOf r.resource))
    (quiet : w.Quiet) (hplace : w.cluster.InPlace r.resource) :
    Safe r.resource (fun k => k = .ofResource r.resource «namespace» name ∧ r.Releases p name «namespace» w) w
      (r.reconcile name «namespace» w).2 := by
  have hfound (free : Key → Prop) : Safe r.resource free w (r.find name «namespace» w).2 := find_safe quiet
  have quiet₁ : (r.find name «namespace» w).2.Quiet := (hfound fun _ => False).quiet
  rcases hfind : r.find name «namespace» w with ⟨e | _ | subject, w₁⟩ <;> rw [hfind] at hfound quiet₁
  · rw [reconcile_of_error hfind]
    exact hfound _
  · rw [reconcile_of_none hfind]
    exact (hfound _).trans (finish_safe quiet₁)
  · have hkey := find_key quiet hplace hfind
    cases hterm : subject.metadata.isTerminating with
    | false =>
      rw [reconcile_of_live hfind hterm]
      exact (hfound _).trans (Safe.bind (apply_safe discreet spares quiet₁) fun _ _ _ => finish_safe)
    | true =>
      rw [reconcile_of_terminating hfind hterm]
      have hdelete : Safe r.resource _ w₁ (r.delete subject w₁).2 := delete_safe discreet' spares hp quiet₁
      refine (hfound _).trans (Safe.bind (hdelete.widen ?_) fun _ _ _ => finish_safe)
      rintro k ⟨rfl, hheld, hended⟩
      refine ⟨hkey, ?_⟩
      rcases hrequest : r.request subject w₁ with ⟨c | request, w₂⟩
      · rw [finalize_of_error hrequest] at hended
        cases hended
      · refine ⟨⟨w₂, request⟩,
          (finalizes_iff hp).mpr ⟨subject, w₁, w₂, request, ⟨hfind, hterm, hheld, hrequest⟩, rfl⟩, ?_⟩
        rintro ⟨c, hc⟩
        rw [finalize_of_request hrequest, hc] at hended
        cases hended

/-- Where the pipeline starts, the stored instance holds the finalizer, and keeps it to the end of the
    reconciliation. -/
theorem starts_holds (hp : r.finalizer = some p) (discreet : ∀ a ∈ r.pipeline.actions, a.Discreet r.resource)
    (spares : r.config.Spares (Key.IsOf r.resource)) (quiet : w.Quiet) (hplace : w.cluster.InPlace r.resource)
    (h : r.Starts name «namespace» w run) :
    ∃ uid, run.world.cluster.Holds (.ofResource r.resource «namespace» name) uid ∧
      (r.reconcile name «namespace» w).2.cluster.Holds (.ofResource r.resource «namespace» name) uid := by
  obtain ⟨subject, w₁, w₂, w₃, config, hready, rfl⟩ := starts_iff.mp h
  have hkey := find_key quiet hplace hready.found
  obtain ⟨o, ho, hkeeps, hcluster⟩ := find_eq_some quiet hready.found
  have quiet₁ : w₁.Quiet := by
    have hfound : Safe r.resource (fun _ => False) w (r.find name «namespace» w).2 := find_safe quiet
    rw [hready.found] at hfound
    exact hfound.quiet
  have quiet₂ : w₂.Quiet := by
    have hensured : Safe r.resource (fun _ => False) w₁ (r.ensureFinalizer subject w₁).2 := ensureFinalizer_safe quiet₁
    rw [hready.ensured] at hensured
    exact hensured.quiet
  have hstored : w₁.cluster.object? (subject.key r.resource) = some o := by
    rw [hkey, hcluster]
    exact ho
  obtain ⟨uid, o₂, ho₂, hrest⟩ := ensureFinalizer_holds quiet₁ hp hstored hkeeps hready.ensured
  obtain ⟨quiet₃, hsame⟩ := spares w₂ quiet₂
  rw [hready.loaded] at quiet₃ hsame
  have hholds : w₃.cluster.Holds (.ofResource r.resource «namespace» name) uid :=
    ⟨o₂, by rw [← hkey, hsame _ ⟨rfl, rfl⟩, ho₂], hrest⟩
  refine ⟨uid, hholds, ?_⟩
  have hend : Safe r.resource (fun _ => False) w₃ (r.reconcile name «namespace» w).2 := by
    have happly : Safe r.resource (fun _ => False) w₃ (r.apply subject w₁).2 :=
      apply_safe_of_readied discreet quiet₃ hready.ensured hready.loaded
    rw [reconcile_of_live hready.found hready.live]
    rcases hresult : r.apply subject w₁ with ⟨e | _, w₄⟩ <;> rw [hresult] at happly
    · rw [Computation.bind_error hresult]
      exact happly
    · rw [Computation.bind_ok hresult]
      exact happly.trans (finish_safe happly.quiet)
  exact hend.guards.holds _ uid ⟨rfl, rfl⟩ id hholds

/-- A finalizer that is to be retried leaves the instance as it is. -/
theorem retried_keeps (hp : r.finalizer = some p) (discreet : ∀ a ∈ p.actions, a.Discreet r.resource)
    (spares : r.config.Spares (Key.IsOf r.resource)) (quiet : w.Quiet) (hplace : w.cluster.InPlace r.resource)
    {c : Cause} (h : r.Finalizes name «namespace» w run) (hretry : (p.run run).1 = .error (.retryable c)) :
    (r.reconcile name «namespace» w).2.cluster.object? (.ofResource r.resource «namespace» name) =
      w.cluster.object? (.ofResource r.resource «namespace» name) := by
  obtain ⟨subject, w₁, w₂, request, hawaits, rfl⟩ := (finalizes_iff hp).mp h
  have hkey := find_key quiet hplace hawaits.found
  obtain ⟨-, -, -, hcluster⟩ := find_eq_some quiet hawaits.found
  have quiet₁ : w₁.Quiet := by
    have hfound : Safe r.resource (fun _ => False) w (r.find name «namespace» w).2 := find_safe quiet
    rw [hawaits.found] at hfound
    exact hfound.quiet
  have hsame : (r.finalize subject p w₁).2.cluster.object? (subject.key r.resource) =
      w₁.cluster.object? (subject.key r.resource) := finalize_object? discreet spares quiet₁
  have hfinal := finalize_of_request (p := p) hawaits.requested
  rw [hretry] at hfinal
  rw [hawaits.reconcile_eq hp, Computation.bind_error hfinal, ← hkey, ← hcluster, ← hsame, hfinal]

/-! ### Whatever happens -/

/-- What users and the operator do. -/
inductive Event where
  | create (o : Object)
  | delete (k : Key) (policy : Propagation)
  | reconcile (name : String) («namespace» : Option String) (faults : List Fault)

/-- An object is created unless there is one, and deleted as the API does it; calls of a reconciliation fail
    as the faults say. -/
def Event.step (r : Reconciler) : Event → World → World
  | .create o, w =>
    if (w.cluster.object? (.ofObject o)).isSome then w else { w with cluster := w.cluster.insert o }
  | .delete k policy, w => { w with cluster := w.cluster.remove w.clock.next policy k, clock := w.clock.tick }
  | .reconcile name «namespace» faults, w => (r.reconcile name «namespace» { w with faults }).2

/-- The world after the events. -/
def after (r : Reconciler) (es : List Event) (w : World) : World := es.foldl (fun w e => e.step r w) w

/-- The event is a reconciliation of the instance at `k` in which the finalizer ended or stopped. -/
def Event.Frees (r : Reconciler) (p : Pipeline) (k : Key) (w : World) (e : Event) : Prop :=
  ∃ name «namespace» faults, e = .reconcile name «namespace» faults ∧ k = .ofResource r.resource «namespace» name ∧
    r.Releases p name «namespace» { w with faults }

/-- None of the events frees the instance at `k`. -/
def Withheld (r : Reconciler) (p : Pipeline) (k : Key) : List Event → World → Prop
  | [], _ => True
  | e :: es, w => ¬e.Frees r p k w ∧ Withheld r p k es (e.step r w)

section
variable (hp : r.finalizer = some p) (discreet : ∀ a ∈ r.pipeline.actions, a.Discreet r.resource)
  (discreet' : ∀ a ∈ p.actions, a.Discreet r.resource) (spares : r.config.Spares (Key.IsOf r.resource))
include hp discreet discreet' spares

theorem Event.safe (e : Event) (quiet : w.Quiet) (hplace : w.cluster.InPlace r.resource) :
    Safe r.resource (fun k => e.Frees r p k w) w (e.step r w) := by
  cases e with
  | create o =>
    show Safe _ _ w (if (w.cluster.object? (.ofObject o)).isSome then w else _)
    split
    · exact .refl quiet
    · rename_i hnone
      exact ⟨quiet, insert_guards (by simpa using hnone)⟩
  | delete k policy => exact ⟨quiet, remove_guards _ _ _ _⟩
  | reconcile name «namespace» faults =>
    have hreconcile : Safe r.resource _ { w with faults } (r.reconcile name «namespace» { w with faults }).2 :=
      reconcile_safe hp discreet discreet' spares quiet hplace
    obtain ⟨quiet', hguards⟩ := hreconcile
    exact ⟨quiet', hguards.widen fun k hk => ⟨name, «namespace», faults, rfl, hk⟩⟩

theorem after_quiet (es : List Event) (quiet : w.Quiet) (hplace : w.cluster.InPlace r.resource) :
    (r.after es w).Quiet ∧ (r.after es w).cluster.InPlace r.resource := by
  induction es generalizing w with
  | nil => exact ⟨quiet, hplace⟩
  | cons e es ih =>
    have hsafe := e.safe hp discreet discreet' spares quiet hplace
    exact ih hsafe.quiet (hsafe.guards.inPlace hplace)

/-- As long as no event frees it, an instance that holds the finalizer stays. -/
theorem after_holds {k : Key} {uid : Option String} (hk : k.IsOf r.resource) (es : List Event) (quiet : w.Quiet)
    (hplace : w.cluster.InPlace r.resource) (withheld : r.Withheld p k es w) (hholds : w.cluster.Holds k uid) :
    (r.after es w).cluster.Holds k uid := by
  induction es generalizing w with
  | nil => exact hholds
  | cons e es ih =>
    obtain ⟨hnot, hrest⟩ := withheld
    have hsafe := e.safe hp discreet discreet' spares quiet hplace
    exact ih hsafe.quiet (hsafe.guards.inPlace hplace) hrest (hsafe.guards.holds k uid hk hnot hholds)

end

/-- After any events, where the pipeline starts for an instance the stored one holds the platform's finalizer,
    and that instance stays until its finalizer ends or stops in a reconciliation. A finalizer that is to be
    retried leaves it as it is. -/
theorem no_instance_escapes (hp : r.finalizer = some p)
    (discreet : ∀ a ∈ r.pipeline.actions, a.Discreet r.resource) (discreet' : ∀ a ∈ p.actions, a.Discreet r.resource)
    (spares : r.config.Spares (Key.IsOf r.resource)) (quiet : w.Quiet) (hplace : w.cluster.InPlace r.resource)
    (before : List Event) (name : String) («namespace» : Option String) (faults : List Fault) :
    let k := Key.ofResource r.resource «namespace» name
    let w₁ := { r.after before w with faults }
    (∀ run, r.Starts name «namespace» w₁ run → ∃ uid, run.world.cluster.Holds k uid ∧
      ∀ later, r.Withheld p k later (r.reconcile name «namespace» w₁).2 →
        (r.after (before ++ .reconcile name «namespace» faults :: later) w).cluster.Holds k uid) ∧
    ∀ run c, r.Finalizes name «namespace» w₁ run → (p.run run).1 = .error (.retryable c) →
      (r.after (before ++ [.reconcile name «namespace» faults]) w).cluster.object? k =
        (r.after before w).cluster.object? k := by
  intro k w₁
  obtain ⟨quiet₁, hplace₁⟩ := after_quiet hp discreet discreet' spares before quiet hplace
  have hrun (later : List Event) : r.after (before ++ .reconcile name «namespace» faults :: later) w =
      r.after later (r.reconcile name «namespace» w₁).2 := by
    rw [after, List.foldl_append]
    rfl
  refine ⟨fun run hstarts => ?_, fun run c hfinalizes hretry => ?_⟩
  · obtain ⟨uid, hstart, hend⟩ := starts_holds hp discreet spares (w := w₁) quiet₁ hplace₁ hstarts
    refine ⟨uid, hstart, fun later withheld => ?_⟩
    rw [hrun]
    have hsafe : Safe r.resource _ w₁ (r.reconcile name «namespace» w₁).2 :=
      reconcile_safe hp discreet discreet' spares quiet₁ hplace₁
    exact after_holds hp discreet discreet' spares ⟨rfl, rfl⟩ later hsafe.quiet (hsafe.guards.inPlace hplace₁)
      withheld hend
  · rw [hrun]
    exact retried_keeps hp discreet' spares (w := w₁) quiet₁ hplace₁ hfinalizes hretry

namespace Sample
open Condition

/-- An action that only tells that it ran. -/
def telling : Action where
  name := "telling"
  run := RunM.modifyConditions (Manager.mark available .true {})

def finalizing : Reconciler :=
  { reconciler with pipeline := ⟨"dashboards", [telling]⟩, finalizer := some ⟨"cleanup", [telling]⟩ }

def created : Object where
  types := some ⟨"components.platform.opendatahub.io/v1alpha1", "Dashboard"⟩
  metadata := { name := some "d" }
  content := [("spec", .obj [])]

def createdKey : Key := .ofResource Instance.dashboards none "d"

theorem telling_discreet (t : ApiResource) : telling.Discreet t :=
  fun _ quiet => ⟨quiet, rfl, rfl, .refl _ _ _⟩

theorem finalizing_starts : ∃ run, finalizing.Starts "d" none (finalizing.after [.create created] {}) run := by
  let w := finalizing.after [.create created] {}
  obtain ⟨subject, hfound, hlive, hensured⟩ : ∃ subject ∈ ((finalizing.find "d" none w).1.toOption.getD none),
      subject.metadata.isTerminating = false ∧
        (finalizing.ensureFinalizer subject (finalizing.find "d" none w).2).1.isOk = true := by
    decide +kernel
  rcases hfind : finalizing.find "d" none w with ⟨e | found, w₁⟩ <;> rw [hfind] at hfound hensured
  · cases hfound
  · obtain rfl : found = some subject := hfound
    exact ⟨_, starts_iff.mpr ⟨subject, w₁, _, _, ⟨"apps", none⟩,
      ⟨hfind, hlive, Computation.eq_ok_of_isOk hensured, rfl⟩, rfl⟩⟩

end Sample

open Reconciler.Sample in
/-- A dashboard that is deleted after the pipeline ran stays for its finalizer. -/
theorem no_instance_escapes_sample :
    (∀ a ∈ finalizing.pipeline.actions, a.Discreet finalizing.resource) ∧
      finalizing.config.Spares (Key.IsOf finalizing.resource) ∧
      (∃ run, finalizing.Starts "d" none (finalizing.after [.create created] {}) run) ∧
        ∃ uid, (finalizing.after [.create created, .reconcile "d" none [], .delete createdKey .background]
          {}).cluster.Holds createdKey uid := by
  have discreet : ∀ a ∈ finalizing.pipeline.actions, a.Discreet finalizing.resource := by
    intro a ha
    rw [List.mem_singleton.mp ha]
    exact telling_discreet _
  have spares : finalizing.config.Spares (Key.IsOf finalizing.resource) := fun _ quiet => ⟨quiet, fun _ _ => rfl⟩
  have hplace : (World.cluster {}).InPlace finalizing.resource := fun k o _ ho => by cases ho
  obtain ⟨run, hstarts⟩ := finalizing_starts
  obtain ⟨hstays, -⟩ := no_instance_escapes (p := ⟨"cleanup", [telling]⟩) (w := {}) rfl discreet discreet spares rfl
    hplace [.create created] "d" none []
  obtain ⟨uid, -, hlater⟩ := hstays run hstarts
  refine ⟨discreet, spares, ⟨run, hstarts⟩, uid, hlater [.delete createdKey .background] ⟨?_, trivial⟩⟩
  rintro ⟨_, _, _, hevent, -⟩
  cases hevent

end Reconciler
end PlatformOperator
