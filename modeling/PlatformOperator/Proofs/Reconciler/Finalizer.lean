import PlatformOperator.Proofs.Cluster.Guard
import PlatformOperator.Proofs.Reconciler.Status
import PlatformOperator.Proofs.World.Quiet

/-! The finalizer of an instance in one reconciliation: it is in place before the pipeline starts, and only a
    run of the finalizing pipeline that ended or stopped takes it away. -/

namespace PlatformOperator

/-! ### Instances as they are read -/

/-- An instance has the metadata of the object it is read from. -/
theorem Instance.metadata_of_ofJson? {t : ApiResource} {o : Object} {subject : Instance}
    (h : ofJson? t o.toJson = some subject) : ObjectMeta.Keeps (fun _ => False) o.metadata subject.metadata := by
  have hfields : o.toJson.fields? ["metadata", "spec", "status"] = some o.toJson.members := rfl
  simp only [ofJson?, hfields, bind, Option.bind_eq_some_iff, pure, Option.some.injEq] at h
  obtain ⟨_, rfl, m, hm, _, -, _, -, rfl⟩ := h
  rw [Json.required, Object.get?_toJson_metadata, Option.bind_some] at hm
  exact ObjectMeta.keeps_of_ofJson? hm

/-- Where the instance is stored. -/
def Instance.key (subject : Instance) (t : ApiResource) : Key :=
  .ofResource t subject.metadata.namespace subject.name

/-! ### What actions leave alone -/

/-- The instance is as before, and no other one was renamed or lost the platform's finalizer. -/
structure Run.Respects (t : ApiResource) (run run' : Run) : Prop where
  quiet : run'.world.Quiet
  subject : run'.request.subject = run.request.subject
  untouched : run'.world.cluster.object? (run.request.subject.key t) =
    run.world.cluster.object? (run.request.subject.key t)
  guards : Cluster.Guards t (fun _ => False) run.world.cluster run'.world.cluster

/-- Whatever comes of it, the action respects instances of the type. -/
def Action.Discreet (t : ApiResource) (a : Action) : Prop :=
  ∀ run : Run, run.world.Quiet → run.Respects t (a.run run).2

theorem Run.Respects.refl {run : Run} (t : ApiResource) (quiet : run.world.Quiet) : run.Respects t run :=
  ⟨quiet, rfl, rfl, .refl _ _ _⟩

theorem Run.Respects.trans {t : ApiResource} {run run₁ run' : Run} (h₁ : run.Respects t run₁)
    (h₂ : run₁.Respects t run') : run.Respects t run' where
  quiet := h₂.quiet
  subject := h₂.subject.trans h₁.subject
  untouched := (h₁.subject ▸ h₂.untouched).trans h₁.untouched
  guards := h₁.guards.trans h₂.guards

theorem Pipeline.run_respects {t : ApiResource} {p : Pipeline} (h : ∀ a ∈ p.actions, a.Discreet t) {run : Run}
    (quiet : run.world.Quiet) : run.Respects t (p.run run).2 := by
  show run.Respects t (runAll p.actions run).2
  generalize p.actions = as at h
  induction as generalizing run with
  | nil => exact .refl t quiet
  | cons a as ih =>
    have hrest : ∀ b ∈ as, b.Discreet t := fun b hb => h b (List.mem_cons_of_mem a hb)
    exact Computation.bind_ends (h a List.mem_cons_self run quiet) fun _ _ _ hfirst =>
      hfirst.trans (ih hfirst.quiet hrest)

namespace Reconciler
open Cluster
variable {r : Reconciler} {subject : Instance} {name : String} {«namespace» : Option String} {w w₁ w₂ w' : World}
  {t : ApiResource} {free free' : Key → Prop} {p : Pipeline} {config : ClusterConfig} {request : Request}
  {fs : List String} {o : Object} {outcome : Except ActionError Unit} {run : Run}

/-- The world stays quiet, and instances are guarded. -/
structure Safe (t : ApiResource) (free : Key → Prop) (w w' : World) : Prop where
  quiet : w'.Quiet
  guards : Guards t free w.cluster w'.cluster

theorem Safe.refl (quiet : w.Quiet) : Safe t free w w := ⟨quiet, .refl _ _ _⟩

theorem Safe.trans (h₁ : Safe t free w w₁) (h₂ : Safe t free w₁ w') : Safe t free w w' :=
  ⟨h₂.quiet, h₁.guards.trans h₂.guards⟩

theorem Safe.widen (h : Safe t free w w') (hsub : ∀ k, free k → free' k) : Safe t free' w w' :=
  ⟨h.quiet, h.guards.widen hsub⟩

theorem Safe.of_same (quiet : w'.Quiet) (h : ∀ k, k.IsOf t → w'.cluster.object? k = w.cluster.object? k) :
    Safe t free w w' :=
  ⟨quiet, .of_same h⟩

/-- What is safe step by step is safe, wherever it ends. -/
theorem Safe.bind {ε α β : Type} {x : Op ε α} {f : α → Op ε β} (hx : Safe t free w (x w).2)
    (hf : ∀ a w₁, x w = (.ok a, w₁) → w₁.Quiet → Safe t free w₁ (f a w₁).2) : Safe t free w ((x >>= f) w).2 :=
  Computation.bind_ends hx fun a w₁ h hsafe => hsafe.trans (hf a w₁ h hsafe.quiet)

theorem forget_safe (quiet : w.Quiet) (k : String) : Safe t free w (r.forget k w) := ⟨quiet, .refl _ _ _⟩

/-! ### The steps of a reconciliation -/

theorem find_safe (quiet : w.Quiet) : Safe t free w (r.find name «namespace» w).2 := by
  refine Safe.bind (x := Op.mapError _ (World.getObject r.resource «namespace» name)) ?_ fun found w₁ _ quiet₁ => ?_
  · show Safe t free w (World.getObject r.resource «namespace» name w).2
    rcases World.getObject_quiet quiet r.resource «namespace» name with ⟨e, h⟩ | h
    · rw [h]
      exact ⟨quiet, .refl _ _ _⟩
    · rw [h]
      exact ⟨quiet, .refl _ _ _⟩
  · cases found with
    | none => exact .refl quiet₁
    | some o =>
      dsimp only
      cases Instance.ofJson? r.resource o.toJson <;> exact .refl quiet₁

/-- The instance that is found was read from the object under its key. -/
theorem find_eq_some (quiet : w.Quiet) (h : r.find name «namespace» w = (.ok (some subject), w₁)) :
    ∃ o, w.cluster.object? (.ofResource r.resource «namespace» name) = some o ∧
      ObjectMeta.Keeps (fun _ => False) o.metadata subject.metadata ∧ w₁.cluster = w.cluster := by
  obtain ⟨found, w₂, hget, h⟩ := Computation.bind_eq_ok.mp h
  rcases World.getObject_quiet quiet r.resource «namespace» name with ⟨e, hquiet⟩ | hquiet
  · cases hquiet.symm.trans (Op.mapError_eq_ok.mp hget)
  cases hquiet.symm.trans (Op.mapError_eq_ok.mp hget)
  cases ho : w.cluster.get r.resource «namespace» name with
  | none =>
    rw [ho] at h
    cases h
  | some o =>
    rw [ho] at h
    dsimp only at h
    cases hread : Instance.ofJson? r.resource o.toJson with
    | none =>
      rw [hread] at h
      cases h
    | some subject' =>
      rw [hread] at h
      cases h
      exact ⟨o, ho, Instance.metadata_of_ofJson? hread, rfl⟩

theorem updateFinalizers_snd : (r.updateFinalizers subject fs w).2 =
    (World.mergePatch r.resource subject.metadata.namespace subject.name
      (.ofPairs [("metadata", .ofPairs [("finalizers", .arr (fs.map .str))])]) w).2 :=
  Computation.bind_snd fun _ _ => rfl

theorem updateFinalizers_safe (quiet : w.Quiet) (hfree : Marks.finalizer ∈ fs ∨ free (subject.key r.resource)) :
    Safe r.resource free w (r.updateFinalizers subject fs w).2 := by
  rw [updateFinalizers_snd]
  rcases World.mergePatch_quiet quiet r.resource subject.metadata.namespace subject.name
    (.ofPairs [("metadata", .ofPairs [("finalizers", .arr (fs.map .str))])]) with ⟨e, _, h⟩ | ⟨o, c, hc, h⟩
  · rw [h]
    exact ⟨quiet, .refl _ _ _⟩
  · rw [h]
    exact ⟨quiet, mergePatch_guards hc hfree⟩

/-- Finalizers that were written are stored. -/
theorem updateFinalizers_ok (quiet : w.Quiet) (hfs : fs ≠ []) (h : r.updateFinalizers subject fs w = (.ok (), w₁)) :
    ∃ o, w₁.cluster.object? (subject.key r.resource) = some o ∧ o.metadata.finalizers = some fs := by
  obtain ⟨o, w₂, hpatch, h⟩ := Computation.bind_eq_ok.mp h
  cases h
  rcases World.mergePatch_quiet quiet r.resource subject.metadata.namespace subject.name
    (.ofPairs [("metadata", .ofPairs [("finalizers", .arr (fs.map .str))])]) with ⟨e, _, hquiet⟩ | ⟨o', c, hc, hquiet⟩
  · cases hquiet.symm.trans (Op.mapError_eq_ok.mp hpatch)
  cases hquiet.symm.trans (Op.mapError_eq_ok.mp hpatch)
  obtain ⟨o₀, -, hfinalizers, -, -, -, T, hs, hT⟩ := mergePatch_finalizers hc
  refine ⟨o, ?_, hfinalizers⟩
  show c.object? _ = _
  rw [hs.unchanged fun t ht => absurd (hT t ht) hfs]
  exact (object?_put _ _ _ _).trans (if_pos rfl)

theorem ensureFinalizer_safe (quiet : w.Quiet) : Safe r.resource free w (r.ensureFinalizer subject w).2 := by
  unfold ensureFinalizer
  split
  · exact updateFinalizers_safe quiet (.inl (by simp))
  · exact .refl quiet

/-- Once it is ensured, the stored instance holds the finalizer. -/
theorem ensureFinalizer_holds (quiet : w.Quiet) (hfinalizer : r.finalizer = some p)
    (ho : w.cluster.object? (subject.key r.resource) = some o)
    (hkeeps : ObjectMeta.Keeps (fun _ => False) o.metadata subject.metadata)
    (h : r.ensureFinalizer subject w = (.ok (), w₁)) : ∃ uid, w₁.cluster.Holds (subject.key r.resource) uid := by
  unfold ensureFinalizer at h
  rw [hfinalizer] at h
  split at h
  · obtain ⟨o', ho', hfinalizers⟩ := updateFinalizers_ok quiet (by simp) h
    refine ⟨_, o', ho', rfl, ?_⟩
    rw [ObjectMeta.finalizerList, hfinalizers]
    simp
  · rename_i hheld
    cases h
    refine ⟨_, o, ho, rfl, ?_⟩
    have hsame : o.metadata.finalizerList = subject.metadata.finalizerList := by
      rw [ObjectMeta.finalizerList, ObjectMeta.finalizerList, hkeeps.finalizers id]
    rw [hsame]
    simpa using hheld

theorem patchStatus_safe {status : Json} (quiet : w.Quiet) :
    Safe t free w (World.patchStatus r.resource «namespace» name status w).2 := by
  rcases World.patchStatus_quiet quiet r.resource «namespace» name status with ⟨e, _, h⟩ | ⟨c, hc, h⟩
  · rw [h]
    exact ⟨quiet, .refl _ _ _⟩
  · rw [h]
    exact ⟨quiet, patchStatus_guards hc⟩

/-! ### Provisioning -/

/-- The status that is written last says nothing of finalizers. -/
theorem apply_safe_of_provision {after : Instance} {m : Manager} (h : Safe t free w' w₂)
    (hensure : r.ensureFinalizer subject w = (.ok (), w₁))
    (hprovision : (r.provision subject : Op ReconcileError _) w₁ = (.ok (after, m, outcome), w₂)) :
    Safe t free w' (r.apply subject w).2 := by
  rw [apply_snd hensure hprovision]
  have htimed (clock : Clock) : Safe t free w₂ { w₂ with clock } := ⟨h.quiet, .refl _ _ _⟩
  exact h.trans ((htimed _).trans (patchStatus_safe (htimed _).quiet))

/-- From the start of the pipeline on, its actions respect the instances. -/
theorem apply_safe_of_readied (discreet : ∀ a ∈ r.pipeline.actions, a.Discreet r.resource) (quiet : w₂.Quiet)
    (hensure : r.ensureFinalizer subject w = (.ok (), w₁)) (hconfig : r.config w₁ = (.ok config, w₂)) :
    Safe r.resource free w₂ (r.apply subject w).2 := by
  let run := r.readied subject config w₂
  have hrun : run.Respects r.resource (r.pipeline.run run).2 := Pipeline.run_respects discreet quiet
  refine apply_safe_of_provision ?_ hensure (provision_of_config hconfig)
  exact ⟨hrun.quiet, hrun.guards.widen fun _ h => h.elim⟩

theorem apply_safe (discreet : ∀ a ∈ r.pipeline.actions, a.Discreet r.resource)
    (spares : r.config.Spares (Key.IsOf r.resource)) (quiet : w.Quiet) :
    Safe r.resource free w (r.apply subject w).2 := by
  have hensured : Safe r.resource free w (r.ensureFinalizer subject w).2 := ensureFinalizer_safe quiet
  rcases hensure : r.ensureFinalizer subject w with ⟨e | _, w₁⟩ <;> rw [hensure] at hensured
  · have happly : r.apply subject w = (.error e, w₁) := Computation.bind_error hensure
    rw [happly]
    exact hensured
  · obtain ⟨quiet₂, hsame⟩ := spares w₁ hensured.quiet
    have hloaded : Safe r.resource free w₁ (r.config w₁).2 := .of_same quiet₂ hsame
    rcases hconfig : r.config w₁ with ⟨c | config, w₂⟩ <;> rw [hconfig] at hloaded
    · refine apply_safe_of_provision ?_ hensure (provision_of_error hconfig)
      exact (hensured.trans hloaded).trans ⟨hloaded.quiet, .refl _ _ _⟩
    · exact (hensured.trans hloaded).trans (apply_safe_of_readied discreet hloaded.quiet hensure hconfig)

/-! ### Finalizing -/

theorem request_world (w : World) : (r.request subject w).2.cluster = (r.config w).2.cluster ∧
    ((r.config w).2.Quiet → (r.request subject w).2.Quiet) := by
  rcases h : r.config w with ⟨c | config, w₁⟩
  · rw [request, Computation.bind_error h]
    exact ⟨rfl, id⟩
  · rw [request, Computation.bind_ok h]
    exact ⟨rfl, id⟩

theorem request_subject (h : r.request subject w = (.ok request, w₁)) : request.subject = subject := by
  obtain ⟨config, w₂, -, h⟩ := Computation.bind_eq_ok.mp h
  cases h
  rfl

theorem request_object? {k : Key} (spares : r.config.Spares (Key.IsOf r.resource)) (quiet : w.Quiet)
    (hk : k.IsOf r.resource) :
    (r.request subject w).2.cluster.object? k = w.cluster.object? k := by
  rw [(request_world w).1]
  exact (spares w quiet).2 k hk

theorem request_safe (spares : r.config.Spares (Key.IsOf r.resource)) (quiet : w.Quiet) :
    Safe r.resource free w (r.request subject w).2 :=
  .of_same ((request_world w).2 (spares w quiet).1) fun _ hk => request_object? spares quiet hk

/-- How finalizing ends: a pipeline that stops has done its work. -/
def finalized (subject : Instance) : Except ActionError Unit → Except ReconcileError Unit
  | .ok () => .ok ()
  | .error (.stop _) => .ok ()
  | .error (.retryable c) => .error (.finalize subject.name (.retryable c))

theorem finalize_of_request (hrequest : r.request subject w = (.ok request, w₁)) :
    r.finalize subject p w =
      (finalized subject (p.run ⟨w₁, request⟩).1, (p.run ⟨w₁, request⟩).2.world) := by
  refine (Computation.bind_ok (Op.mapError_eq_ok.mpr hrequest)).trans ?_
  rcases h : p.run ⟨w₁, request⟩ with ⟨outcome, run⟩
  have hrun : (runPipeline p request : Op ReconcileError _) w₁ = (.ok (run.request, outcome), run.world) := by
    unfold runPipeline
    rw [h]
  refine (Computation.bind_ok hrun).trans ?_
  rcases outcome with (c | c) | _ <;> rfl

theorem finalize_of_error {c : Cause} (hrequest : r.request subject w = (.error c, w₁)) :
    r.finalize subject p w = (.error (.loadClusterConfig c), w₁) := by
  have herror : Op.mapError ReconcileError.loadClusterConfig (r.request subject) w =
      (.error (.loadClusterConfig c), w₁) := by
    show (Except.mapError _ (r.request subject w).1, (r.request subject w).2) = _
    rw [hrequest]
    rfl
  exact Computation.bind_error herror

theorem finalize_safe (discreet : ∀ a ∈ p.actions, a.Discreet r.resource)
    (spares : r.config.Spares (Key.IsOf r.resource)) (quiet : w.Quiet) :
    Safe r.resource free w (r.finalize subject p w).2 := by
  have hrequested : Safe r.resource free w (r.request subject w).2 := request_safe spares quiet
  rcases hrequest : r.request subject w with ⟨c | request, w₁⟩ <;> rw [hrequest] at hrequested
  · rw [finalize_of_error hrequest]
    exact hrequested
  · have hrun : Run.Respects r.resource ⟨w₁, request⟩ (p.run ⟨w₁, request⟩).2 :=
      Pipeline.run_respects discreet hrequested.quiet
    rw [finalize_of_request hrequest]
    exact hrequested.trans ⟨hrun.quiet, hrun.guards.widen fun _ h => h.elim⟩

/-- Finalizing leaves the instance as it is. -/
theorem finalize_object? (discreet : ∀ a ∈ p.actions, a.Discreet r.resource)
    (spares : r.config.Spares (Key.IsOf r.resource)) (quiet : w.Quiet) :
    (r.finalize subject p w).2.cluster.object? (subject.key r.resource) =
      w.cluster.object? (subject.key r.resource) := by
  have hrequested : Safe r.resource (fun _ => False) w (r.request subject w).2 := request_safe spares quiet
  have hsame : (r.request subject w).2.cluster.object? (subject.key r.resource) =
      w.cluster.object? (subject.key r.resource) := request_object? spares quiet ⟨rfl, rfl⟩
  rcases hrequest : r.request subject w with ⟨c | request, w₁⟩ <;> rw [hrequest] at hrequested hsame
  · rw [finalize_of_error hrequest]
    exact hsame
  · have hrun : Run.Respects r.resource ⟨w₁, request⟩ (p.run ⟨w₁, request⟩).2 :=
      Pipeline.run_respects discreet hrequested.quiet
    have huntouched := hrun.untouched
    rw [request_subject hrequest] at huntouched
    rw [finalize_of_request hrequest]
    exact huntouched.trans hsame

theorem delete_of_not_held (h : Marks.finalizer ∉ subject.metadata.finalizerList) :
    r.delete subject w = (.ok (), w) := by
  unfold delete
  rw [if_pos (by simpa using h)]
  rfl

theorem delete_of_held (h : Marks.finalizer ∈ subject.metadata.finalizerList) (hfinalizer : r.finalizer = some p) :
    r.delete subject w = (r.finalize subject p >>= fun _ =>
      r.updateFinalizers subject (subject.metadata.finalizerList.filter (· != Marks.finalizer))) w := by
  unfold delete
  rw [if_neg (by simpa using h), hfinalizer]

/-- An instance is let go only after its finalizer ended or stopped. -/
theorem delete_safe (discreet : ∀ a ∈ p.actions, a.Discreet r.resource) (spares : r.config.Spares (Key.IsOf r.resource))
    (hfinalizer : r.finalizer = some p) (quiet : w.Quiet) :
    Safe r.resource (fun k => k = subject.key r.resource ∧ Marks.finalizer ∈ subject.metadata.finalizerList ∧
      (r.finalize subject p w).1.isOk = true) w (r.delete subject w).2 := by
  by_cases hheld : Marks.finalizer ∈ subject.metadata.finalizerList
  · rw [delete_of_held hheld hfinalizer]
    refine Safe.bind (finalize_safe discreet spares quiet) fun _ w₁ hok quiet₁ => ?_
    exact updateFinalizers_safe quiet₁ (.inr ⟨rfl, hheld, by rw [hok]; rfl⟩)
  · rw [delete_of_not_held hheld]
    exact .refl quiet

end Reconciler
end PlatformOperator
