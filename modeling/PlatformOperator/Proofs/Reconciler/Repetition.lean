import PlatformOperator.Proofs.Reconciler.Undisturbed

/-! Unchanged inputs write an unchanged status: where the pipeline makes the same marks and comes to the same outcome
    again, a second reconciliation writes what the first one wrote, the transition times and the order included. -/

namespace PlatformOperator
open Json

namespace Reconciler
open Condition Manager
variable {r : Reconciler} {subject : Instance} {ending : Ending} {w w₁ w' : World} {m m' : Manager}
  {clock clock' : Clock} {o : Object}

/-! ### From the opening to the conclusion -/

/-- The dependents that are in force: without a configuration only the pipeline's own condition. -/
def declared (r : Reconciler) : Ending → List String
  | .ran _ _ => provisioningSucceeded :: r.dependents
  | .unconfigured _ => [provisioningSucceeded]

/-- The pipeline may mark the declared dependents, each once, apart from the conditions that the reconciler keeps. -/
structure Permits (r : Reconciler) (ks : List Mark) : Prop where
  dependent : ∀ k ∈ ks, k.type ∈ r.dependents ∧ k.type ≠ ready ∧ k.type ≠ provisioningSucceeded
  once : (ks.map (·.type)).Nodup
  generation : ∀ k ∈ ks, ∀ n, k.details.observedGeneration = some n → IsWord n

theorem opening_proceeds (r : Reconciler) (subject : Instance) (ending : Ending) (clock : Clock) :
    ∃ m : Manager, m.conditions = subject.conditions ∧ m.Proceeds clock (r.opening subject ending clock) := by
  cases ending with
  | ran ks outcome => exact ⟨_, rfl, (complete_proceeds _ clock).trans (reset_proceeds _ _)⟩
  | unconfigured c => exact ⟨_, rfl, complete_proceeds _ clock⟩

theorem opening_types (r : Reconciler) (subject : Instance) (ending : Ending) (clock : Clock) :
    (r.opening subject ending clock).1.happy = ready ∧
      (r.opening subject ending clock).1.dependents = ((r.declared ending).filter (· != ready)).eraseDups := by
  cases ending with
  | ran ks outcome => exact (sameTypes_complete _ clock).trans (sameTypes_reset _ _)
  | unconfigured c => exact sameTypes_complete _ clock

theorem opening_complete (r : Reconciler) (subject : Instance) (ending : Ending) (clock : Clock) :
    (r.opening subject ending clock).1.Complete := by
  cases ending with
  | ran ks outcome => exact complete_complete _ _
  | unconfigured c => exact complete_complete _ clock

theorem told_unstamped {generation : Int} (h : IsWord generation) (outcome : Except ActionError Unit) :
    (told generation outcome).Unstamped := by
  obtain ⟨hobserved, -⟩ := told_observed generation outcome
  refine ⟨?_, ?_, fun n hn => ?_⟩
  · rcases outcome with (_ | _) | _ <;> rfl
  · rcases outcome with (_ | _) | _ <;> rfl
  · cases hobserved.symm.trans hn
    exact h

namespace Provisions
variable (h : r.Provisions subject ending w m w₁)
include h

theorem types : m.happy = ready ∧ m.dependents = ((r.declared ending).filter (· != ready)).eraseDups := by
  obtain ⟨clock, -, hmarked⟩ := h.marked
  obtain ⟨hhappy, hdeps⟩ := opening_types r subject ending clock
  exact ⟨hmarked.sameTypes.1.trans hhappy, hmarked.sameTypes.2.trans hdeps⟩

theorem complete : m.Complete := by
  obtain ⟨clock, -, hmarked⟩ := h.marked
  exact hmarked.keeps (fun k _ m clock hm => hm.set k.condition clock) (opening_complete r subject ending clock)

theorem timely (hpermits : r.Permits ending.marks) (htimely : Timely w.clock subject.conditions) :
    Timely w₁.clock m.conditions := by
  obtain ⟨clock, hlater, hmarked⟩ := h.marked
  obtain ⟨m₀, hm₀, hopened⟩ := opening_proceeds r subject ending clock
  have hunstamped : ∀ k ∈ ending.marks, k.condition.Unstamped := fun k hk => ⟨rfl, rfl, hpermits.generation k hk⟩
  exact (hopened.trans (hmarked.proceeds hunstamped)).timely (hm₀ ▸ htimely.later hlater)

/-- The marks stand, whatever was marked after them. -/
theorem stands (hpermits : r.Permits ending.marks) : ∀ k ∈ ending.marks, m.Stands k.condition := by
  obtain ⟨clock, -, hmarked⟩ := h.marked
  refine hmarked.stands hpermits.once fun k hk => ?_
  rw [(opening_types r subject ending clock).1]
  exact (hpermits.dependent k hk).2.1

/-- A reset before the pipeline leaves only what is declared, and the marks are of declared types. -/
theorem trim (hpermits : r.Permits ending.marks) (hran : ∃ ks outcome, ending = .ran ks outcome) : m.Trim := by
  obtain ⟨clock, -, hmarked⟩ := h.marked
  obtain ⟨-, hdeps⟩ := opening_types r subject ending clock
  obtain ⟨ks, outcome, rfl⟩ := hran
  let m₀ := (r.opening subject (.ran ks outcome) clock).1
  refine (hmarked.keeps (P := fun m => m.dependents = m₀.dependents ∧ m.Trim) ?_ ⟨rfl, reset_trim _ _⟩).2
  rintro k hk m clock ⟨hm, htrim⟩
  obtain ⟨hdep, hready, -⟩ := hpermits.dependent k hk
  obtain ⟨-, hkept⟩ := sameTypes_set k.condition m clock
  refine ⟨hkept.trans hm, htrim.set (.inr ?_) clock⟩
  rw [hm, hdeps, List.mem_eraseDups, List.mem_filter]
  exact ⟨List.mem_cons_of_mem _ hdep, bne_iff_ne.mpr hready⟩

end Provisions

/-- The conditions that the reconciler concludes a run with. -/
structure Concludes (r : Reconciler) (generation : Int) (ending : Ending) (m : Manager) : Prop where
  settled : m.Settled (told generation ending.outcome :: ending.marks.map Mark.condition)
  happy : m.happy = ready
  dependents : m.dependents = ((r.declared ending).filter (· != ready)).eraseDups
  trim : (∃ ks outcome, ending = .ran ks outcome) → m.Trim

theorem Provisions.concludes (h : r.Provisions subject ending w m w₁) (hpermits : r.Permits ending.marks)
    (hgeneration : IsWord subject.generation) (htimely : Timely w.clock subject.conditions) {p : Manager × Clock}
    (hp : concluded subject.generation ending.outcome m w₁.clock = p) :
    r.Concludes subject.generation ending p.1 ∧ Timely p.2 p.1.conditions := by
  obtain ⟨hhappy, hdeps⟩ := h.types
  let c := told subject.generation ending.outcome
  have hc : c.Unstamped := told_unstamped hgeneration ending.outcome
  have htype : c.type = provisioningSucceeded := told_type subject.generation ending.outcome
  have hne : c.type ≠ m.happy := by
    rw [hhappy, htype]
    exact provisioningSucceeded_ne_ready
  have hstands : ∀ d ∈ ending.marks.map Mark.condition, m.Stands d ∧ d.type ≠ c.type ∧ d.type ≠ m.happy := by
    intro d hd
    obtain ⟨k, hk, rfl⟩ := List.mem_map.mp hd
    obtain ⟨-, hready, hother⟩ := hpermits.dependent k hk
    exact ⟨h.stands hpermits k hk, by rw [htype]; exact hother, by rw [hhappy]; exact hready⟩
  have hdeclared : c.type ∈ m.dependents := by
    rw [hdeps, htype, List.mem_eraseDups, List.mem_filter]
    exact ⟨by cases ending <;> exact List.mem_cons_self, by decide⟩
  have hproceeds := (set_proceeds hc m w₁.clock).trans (recompute_proceeds "" _ _)
  have hsame := (sameTypes_set c m w₁.clock).trans (sameTypes_recompute "" _ (m.set c w₁.clock).2)
  rw [concluded_eq] at hp
  subst hp
  refine ⟨⟨settled_sort h.complete (h.timely hpermits htimely) hc hne hstands rfl, hsame.1.trans hhappy,
    hsame.2.trans hdeps, fun hran => ?_⟩, ?_⟩
  · exact (((h.trim hpermits hran).set (.inr hdeclared) _).recompute "" _).sort
  · exact (hproceeds.trans (sort_proceeds _ _)).timely (h.timely hpermits htimely)

/-! ### The same again -/

theorem Concludes.whole {generation : Int} (h : r.Concludes generation ending m) (htimely : Timely clock m.conditions) :
    r.Concludes generation ending m.whole where
  settled := h.settled.whole htimely
  happy := h.happy
  dependents := h.dependents
  trim := fun hran t ht => h.trim hran t (types_whole m ▸ ht)

/-- An instance with concluded conditions opens with just these. -/
theorem Concludes.opening_eq {generation : Int} (h : r.Concludes generation ending m)
    (hconditions : subject.conditions = m.conditions) (clock : Clock) :
    r.opening subject ending clock = (m, clock) := by
  have hstart : start subject.conditions ready (r.declared ending) clock = (m, clock) := by
    rw [hconditions, ← h.happy]
    exact h.settled.start_eq (h.happy ▸ h.dependents) clock
  cases ending with
  | ran ks outcome =>
    show (start subject.conditions ready _ >>= fun m => m.reset) clock = _
    show (start subject.conditions ready (r.declared (.ran ks outcome)) clock).1.reset
      (start subject.conditions ready (r.declared (.ran ks outcome)) clock).2 = _
    rw [hstart]
    exact h.settled.reset_eq (h.trim ⟨ks, outcome, rfl⟩) clock
  | unconfigured c => exact hstart

/-- The same marks and the same outcome conclude with the conditions that the instance has. -/
theorem Concludes.again (h : r.Concludes subject.generation ending m) (hconditions : subject.conditions = m.conditions)
    (hprovisions : r.Provisions subject ending w m' w₁) :
    (concluded subject.generation ending.outcome m' w₁.clock).1 = m := by
  obtain ⟨clock, -, hmarked⟩ := hprovisions.marked
  rw [h.opening_eq hconditions clock] at hmarked
  have hm : m' = m := h.settled.marked_eq (fun k hk => List.mem_cons_of_mem _ (List.mem_map_of_mem hk)) hmarked
  rw [concluded_eq, hm]
  exact h.settled.concluded_eq List.mem_cons_self _ _

/-! ### The status -/

theorem whole_isHappy (m : Manager) : m.whole.isHappy = m.isHappy := by
  unfold isHappy top?
  rw [show m.whole.happy = m.happy from rfl, whole_condition?]
  cases m.condition? m.happy <;> rfl

/-- A status made anew from itself, read back, is the same. -/
theorem statusOf_whole (generation : Int) (m : Manager) (s : PlatformStatus) :
    statusOf generation m.whole (statusOf generation m s).whole = (statusOf generation m s).whole := by
  unfold statusOf
  rw [whole_isHappy]
  cases m.isHappy <;> rfl

/-- A status can be written and read back, if the conditions can that make it. -/
structure Lasts (generation : Int) (m : Manager) (s : PlatformStatus) : Prop where
  complete : m.Complete
  generation : IsWord generation
  observed : ∀ n, s.observedGeneration = some n → IsWord n
  writable : ∀ c ∈ m.conditions, c.Writable

theorem Lasts.reads {i : Instance} {t : ApiResource} {s : PlatformStatus} (hread : Instance.ReadsFrom t o i)
    (hcontent : o.content.Ascending) (h : Lasts i.generation m (i.status.getD {}))
    (hs : statusOf i.generation m (i.status.getD {}) = s) :
    (o.withStatus s.toJson).content.Ascending ∧
      Instance.ReadsFrom t (o.withStatus s.toJson) { i with status := some s.whole } := by
  refine ⟨Dict.ascending_insert _ _ hcontent, hread.withStatus ?_⟩
  subst hs
  have hconditions := statusOf_conditions i.generation m (i.status.getD {})
  have hsome : (statusOf i.generation m (i.status.getD {})).conditions ≠ [] := by
    obtain ⟨c, hc, -⟩ := List.mem_map.mp (h.complete m.happy (.inl rfl))
    exact hconditions ▸ List.ne_nil_of_mem hc
  refine hread.ofJson?_mergedStatus (statusOf_phase _ m _) hsome ?_ ?_ (hconditions ▸ h.writable)
  · intro n hn
    rw [statusOf_observedGeneration] at hn
    split at hn
    · cases hn
      exact h.generation
    · exact h.observed n hn
  · intro hnone
    rw [statusOf_observedGeneration] at hnone
    split at hnone
    · cases hnone
    · exact hnone

/-- The last call of the reconciliation writes the status, and the stored instance then has it. -/
def Writes (r : Reconciler) (subject : Instance) (s : PlatformStatus) (w : World) : Prop :=
  let w' := (r.reconcile subject.name subject.metadata.namespace w).2
  w'.calls.getLast? = some (.patchStatus r.resource subject.metadata.namespace subject.name s.toJson) ∧
    ∃ o i, w'.cluster.object? (subject.key r.resource) = some o ∧ Instance.ofJson? r.resource o.toJson = some i ∧
      i.status = some s.whole

/-- A second reconciliation of an instance that nobody touched since the first one writes the status that the first one
    wrote, if the pipeline makes the same marks and comes to the same outcome. The times that the first one wrote can
    be read back if its clock ends within the years of four digits. -/
theorem reconcile_repeats_status (hstored : w.cluster.object? (subject.key r.resource) = some o)
    (hcontent : o.content.Ascending) (hread : Instance.ofJson? r.resource o.toJson = some subject)
    (hlive : subject.metadata.isTerminating = false) (hstamped : Stamped w.clock subject.conditions)
    (hpermits : r.Permits ending.marks) (hfirst : r.Undisturbed subject ending w)
    (hclock : (r.reconcile subject.name subject.metadata.namespace w).2.clock.next.Dated)
    (hsame : w'.cluster.object? (subject.key r.resource) =
      (r.reconcile subject.name subject.metadata.namespace w).2.cluster.object? (subject.key r.resource))
    (hsecond : ∀ o again, w'.cluster.object? (subject.key r.resource) = some o →
      Instance.ofJson? r.resource o.toJson = some again → r.Undisturbed again ending w') :
    ∃ s, r.Writes subject s w ∧ r.Writes subject s w' := by
  have hreads := (Instance.ofJson?_eq_some hcontent).mp hread
  obtain ⟨hgeneration, hobserved, hwords⟩ := hreads.generations
  obtain ⟨m, w₁, w₂, o₁, fs, hprovisions, hlater, hcontent₁, hreads₁, hclock₁, hcall, hobject⟩ :=
    hfirst.reconcile_snd hstored hcontent hreads hlive
  -- The first run concludes with settled conditions, whose times can be written.
  let p := concluded subject.generation ending.outcome m w₂.clock
  have htimely : Timely w.clock subject.conditions := { hstamped with generation := hwords }
  obtain ⟨hconcludes, htimely₁⟩ := hprovisions.concludes hpermits hgeneration (htimely.later hlater) (p := p) rfl
  rw [hclock₁] at hclock
  have hlasts : Lasts subject.generation p.1 (subject.status.getD {}) :=
    ⟨hconcludes.settled.complete, hgeneration, hobserved,
      fun c hc => (htimely₁.later (Nat.le_succ _)).writable hclock hc⟩
  let s := concludedStatus subject ending m w₂.clock
  obtain ⟨hcontent₂, hread₂⟩ := Lasts.reads hreads₁ hcontent₁ hlasts (s := s) rfl
  have hreadable := (Instance.ofJson?_eq_some hcontent₂).mpr hread₂
  -- The second run is one of the instance as it now reads, and that opens with the settled conditions.
  let again : Instance :=
    { subject with metadata := { subject.metadata with finalizers := fs }, status := some s.whole }
  have hundisturbed : r.Undisturbed again ending w' := hsecond _ again (hsame.trans hobject) hreadable
  obtain ⟨m', w₁', w₂', o₂, fs', hprovisions', -, hcontent₃, hreads₃, -, hcall', hobject'⟩ :=
    hundisturbed.reconcile_snd (hsame.trans hobject) hcontent₂ hread₂ hlive
  have hsettled : r.Concludes again.generation ending p.1.whole := hconcludes.whole htimely₁
  have hagain : concludedStatus again ending m' w₂'.clock = s.whole := by
    have hconditions : again.conditions = p.1.whole.conditions :=
      congrArg (List.map Condition.whole) (statusOf_conditions _ _ _)
    unfold concludedStatus
    rw [hsettled.again hconditions hprovisions']
    exact statusOf_whole _ _ _
  have hlasts' : Lasts again.generation p.1.whole (again.status.getD {}) := by
    obtain ⟨hgeneration', hobserved', -⟩ := hread₂.generations
    refine ⟨hsettled.settled.complete, hgeneration', hobserved', fun c hc => ?_⟩
    obtain ⟨d, hd, rfl⟩ := List.mem_map.mp hc
    exact (hlasts.writable d hd).whole
  obtain ⟨hcontent₄, hread₄⟩ := Lasts.reads hreads₃ hcontent₃ hlasts' (s := s.whole) (statusOf_whole _ _ _)
  have hreadable' := (Instance.ofJson?_eq_some hcontent₄).mpr hread₄
  rw [hagain] at hcall' hobject'
  refine ⟨s, ⟨hcall, _, _, hobject, hreadable, rfl⟩, ?_, _, _, hobject', hreadable', ?_⟩
  · rw [← s.toJson_whole]
    exact hcall'
  · exact congrArg some s.whole_whole

namespace Sample

def missing : ConditionDetails := { reason := some "Missing", severity := some .info }

/-- An action that finds the deployments missing, for information, and asks for another try. -/
def wanting : Action where
  name := "wanting"
  run := do
    RunM.modifyConditions (Manager.mark deploymentsAvailable .false missing)
    throw (.retryable (.plain "not yet"))

def repeating : Reconciler :=
  { reconciler with pipeline := ⟨"dashboards", [wanting]⟩, finalizer := some ⟨"cleanup", []⟩ }

def retried : Ending := .ran [⟨deploymentsAvailable, .false, missing⟩] (.error (.retryable (.plain "not yet")))

/-- The dashboard was ready before, with one condition more than is declared now. -/
def before : PlatformStatus where
  phase := some phaseReady
  observedGeneration := some 1
  conditions :=
    [{ type := ready, status := .true, lastTransitionTime := some ⟨1704067203, 0⟩ },
      { type := deploymentsAvailable, status := .true, lastTransitionTime := some ⟨1704067202, 0⟩, severity := .info },
      { type := available, status := .true, lastTransitionTime := some ⟨1704067201, 0⟩ }]

/-- The dashboard does not have the platform's finalizer yet. -/
def unready : Instance where
  resource := Instance.dashboards
  metadata := { name := some "d", generation := some 2 }
  devFlags := none
  status := some before

def unreadyObject : Object where
  types := some ⟨"components.platform.opendatahub.io/v1alpha1", "Dashboard"⟩
  metadata := unready.metadata
  content := [("spec", .obj []), ("status", before.toJson)]

def atFirst : World := { cluster := Cluster.empty.put createdKey unreadyObject }

/-- The world in which the second reconciliation finds what the first one left. -/
def afterwards : World where
  cluster := (repeating.reconcile unready.name unready.metadata.namespace atFirst).2.cluster
  clock := (repeating.reconcile unready.name unready.metadata.namespace atFirst).2.clock

theorem dated_next {clock : Clock} (h : clock.readings ≤ 1000) : clock.next.Dated := by
  simp only [Timestamp.Dated, Clock.next, Clock.origin]
  omega

theorem unready_stamped : Stamped atFirst.clock unready.conditions := by
  refine ⟨by decide, ?_, ?_⟩ <;>
  · intro c hc t ht
    change c ∈ before.conditions at hc
    simp only [before, List.mem_cons, List.not_mem_nil, or_false] at hc
    rcases hc with rfl | rfl | rfl <;> cases ht <;> decide

theorem retried_permitted : repeating.Permits retried.marks := by
  refine ⟨by decide, by decide, fun k hk n hn => ?_⟩
  rw [List.mem_singleton.mp hk] at hn
  cases hn

theorem repeating_undisturbed (i : Instance) {w : World} (calm : w.Calm) : repeating.Undisturbed i retried w := by
  have hfetched : (repeating.fetched i w).Calm := by
    unfold fetched
    rw [World.begin_calm calm]
    exact ⟨calm.faults, calm.arrivals⟩
  have hlaunched : (repeating.launched i w).Calm := ensureFinalizer_calm hfetched
  refine ⟨calm.serves _ _, fun _ _ => hfetched.serves _ _, ?_⟩
  refine ⟨_, _, .ran rfl (Nat.le_refl _) rfl (.mark (Nat.le_refl _) (.none (Nat.le_refl _))) rfl rfl, fun status => ?_⟩
  exact World.Calm.serves ⟨hlaunched.faults, hlaunched.arrivals⟩ _ _

end Sample

open Reconciler.Sample in
/-- The first reconciliation adds the finalizer, drops a condition, and reports the dashboard as not ready. The second
    one has nothing else to report. -/
theorem reconcile_repeats_status_sample :
    (atFirst.cluster.object? (unready.key repeating.resource) = some unreadyObject ∧
      unreadyObject.content.Ascending ∧ Instance.ofJson? repeating.resource unreadyObject.toJson = some unready) ∧
      Stamped atFirst.clock unready.conditions ∧ repeating.Permits retried.marks ∧
      repeating.Undisturbed unready retried atFirst ∧
      (∀ again, repeating.Undisturbed again retried afterwards) ∧
      ∃ s, repeating.Writes unready s atFirst ∧ repeating.Writes unready s afterwards := by
  have hstored : atFirst.cluster.object? (unready.key repeating.resource) = some unreadyObject := by decide +kernel
  have hcontent : unreadyObject.content.Ascending := by
    simp only [Dict.Ascending, unreadyObject, List.pairwise_cons, List.mem_singleton, forall_eq]
    exact ⟨by decide +kernel, by simp⟩
  have hread : Instance.ofJson? repeating.resource unreadyObject.toJson = some unready := by decide +kernel
  have hclock : (repeating.reconcile unready.name unready.metadata.namespace atFirst).2.clock.next.Dated :=
    dated_next (by decide +kernel)
  have hsame : afterwards.cluster.object? (unready.key repeating.resource) =
      (repeating.reconcile unready.name unready.metadata.namespace atFirst).2.cluster.object?
        (unready.key repeating.resource) := by
    dsimp only [afterwards]
  have hfirst : repeating.Undisturbed unready retried atFirst := repeating_undisturbed unready ⟨rfl, rfl⟩
  have hsecond : ∀ again, repeating.Undisturbed again retried afterwards := fun again =>
    repeating_undisturbed again ⟨rfl, rfl⟩
  refine ⟨⟨hstored, hcontent, hread⟩, unready_stamped, retried_permitted, hfirst, hsecond, ?_⟩
  exact reconcile_repeats_status hstored hcontent hread rfl unready_stamped retried_permitted hfirst hclock hsame
    fun _ again _ _ => hsecond again

end Reconciler
end PlatformOperator
