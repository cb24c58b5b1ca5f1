import PlatformOperator.Proofs.Feature.Report
import PlatformOperator.Proofs.Feature.Step
import PlatformOperator.Proofs.World.Sequence
import PlatformOperator.Proofs.World.Written

/-! The protocol of an application: which steps run, how far they come, and what the status of the tracker tells of it
    in the end. -/

namespace PlatformOperator
open Computation

/-- The steps that an application can fail in. -/
def ApplyStep.ofApplication : List ApplyStep :=
  [.preConditions, .loadTemplateData, .resourceCreation, .applyManifests, .postConditions]

namespace Op
variable {ε ε' α : Type} {g : ε → ε'} {xs : List (Op ε α)} {x : Op ε α} {w w' : World} {as : List α} {e' : ε'} {k : Nat}

theorem mapError_eq_error : mapError g x w = (.error e', w') ↔ ∃ e, e' = g e ∧ x w = (.error e, w') := by
  show ((x w).1.mapError g, (x w).2) = _ ↔ _
  rcases x w with ⟨e | a, w₁⟩ <;> constructor
  · intro h
    cases h
    exact ⟨e, rfl, rfl⟩
  · rintro ⟨e, rfl, h⟩
    cases h
    rfl
  · intro h
    cases h
  · rintro ⟨e, -, h⟩
    cases h

/-- The form of failures makes no difference to what passes. -/
theorem passes_mapError : Passes (xs.map (mapError g)) w as w' ↔ Passes xs w as w' := by
  induction xs generalizing w as with
  | nil =>
    constructor <;>
    · intro h
      cases h
      exact .nil
  | cons x xs ih =>
    constructor
    · intro h
      cases h with
      | cons hfirst hrest => exact .cons (mapError_eq_ok.mp hfirst) (ih.mp hrest)
    · intro h
      cases h with
      | cons hfirst hrest => exact .cons (mapError_eq_ok.mpr hfirst) (ih.mpr hrest)

theorem breaks_mapError (h : Breaks (xs.map (mapError g)) k w e' w') : ∃ e, e' = g e ∧ Breaks xs k w e w' := by
  obtain ⟨as, w₁, y, hbefore, hy, hfails⟩ := h
  rw [List.getElem?_map, Option.map_eq_some_iff] at hy
  obtain ⟨x, hx, rfl⟩ := hy
  obtain ⟨e, rfl, hcause⟩ := mapError_eq_error.mp hfails
  rw [← List.map_take] at hbefore
  exact ⟨e, rfl, as, w₁, x, passes_mapError.mp hbefore, hx, hcause⟩

/-- What all of the computations keep holds after they ran. -/
theorem runs_within {Q : Cluster → Prop} {es : List ε}
    (h : Runs xs w es w') (keeps : ∀ x ∈ xs, x.Preserves Q) (hw : w.Within Q) : w'.Within Q := by
  induction h with
  | nil => exact hw
  | @ok x xs w w₁ _ _ _ first _ ih =>
    have hfirst := keeps x List.mem_cons_self w hw
    rw [first] at hfirst
    exact ih (fun y hy => keeps y (List.mem_cons_of_mem _ hy)) hfirst
  | @error x xs w w₁ _ _ _ first _ ih =>
    have hfirst := keeps x List.mem_cons_self w hw
    rw [first] at hfirst
    exact ih (fun y hy => keeps y (List.mem_cons_of_mem _ hy)) hfirst

end Op

/-- All hooks run, and the causes are those of the failures among them. -/
theorem FeatureHook.runAll_runs {ε : Type} (f : FeatureIdentity) (hooks : List FeatureHook) (w : World) :
    ∃ causes w', (runAll f hooks : Op ε _) w = (.ok causes, w') ∧ Runs (hooks.map (· f)) w causes w' := by
  induction hooks generalizing w with
  | nil => exact ⟨[], w, rfl, .nil⟩
  | cons hook hooks ih =>
    rcases hfirst : hook f w with ⟨cause | _, w₁⟩
    · obtain ⟨causes, w', hrest, hruns⟩ := ih w₁
      refine ⟨cause :: causes, w', ?_, .error hfirst hruns⟩
      rw [runAll, bind_ok (Op.outcome_eq hfirst)]
      exact bind_ok hrest
    · obtain ⟨causes, w', hrest, hruns⟩ := ih w₁
      refine ⟨causes, w', ?_, .ok hfirst hruns⟩
      rw [runAll, bind_ok (Op.outcome_eq hfirst)]
      exact hrest

/-- The hooks run as they do, with the causes of all that fail. -/
theorem FeatureHook.runAll_of_runs {ε : Type} {f : FeatureIdentity} {hooks : List FeatureHook} {causes : List Cause}
    {w w' : World} (h : Runs (hooks.map (· f)) w causes w') : (runAll f hooks : Op ε _) w = (.ok causes, w') := by
  induction hooks generalizing w causes with
  | nil =>
    cases h
    rfl
  | cons hook hooks ih =>
    rw [runAll]
    cases h with
    | ok first rest =>
      rw [bind_ok (Op.outcome_eq first)]
      exact ih rest
    | error first rest =>
      rw [bind_ok (Op.outcome_eq first)]
      exact bind_ok (ih rest)

namespace Feature
open Op
variable {f : Feature} {tracker : OwnerReference} {w w₁ w₂ w₃ w' : World} {outcome : Except FeatureError Unit}
  {data data' : Dict Json} {m : Manifest} {e : FeatureError} {k : Nat}

/-! ### The lists of steps -/

/-- The data for templates: what the providers gave, later values over earlier ones. -/
def collected (data : Dict Json) (loads : List (String × (FeatureIdentity → Op Cause Json))) (vs : List Json) :
    Dict Json :=
  ((loads.map (·.1)).zip vs).foldl (fun d p => d.insert p.1 p.2) data

theorem loadData_eq_ok {loads : List (String × (FeatureIdentity → Op Cause Json))} :
    f.loadData data loads w = (.ok data', w') ↔
      ∃ vs, Passes (loads.map (·.2 f.identity)) w vs w' ∧ data' = collected data loads vs := by
  induction loads generalizing data w with
  | nil =>
    constructor
    · intro h
      cases h
      exact ⟨[], .nil, rfl⟩
    · rintro ⟨_, h, rfl⟩
      cases h
      rfl
  | cons load loads ih =>
    obtain ⟨key, load⟩ := load
    rw [loadData, bind_eq_ok]
    constructor
    · rintro ⟨v, w₁, hfirst, hrest⟩
      obtain ⟨vs, hpasses, hdata⟩ := ih.mp hrest
      exact ⟨v :: vs, .cons (mapError_eq_ok.mp hfirst) hpasses, hdata⟩
    · rintro ⟨_, h, hdata⟩
      cases h with
      | cons hfirst hpasses => exact ⟨_, _, mapError_eq_ok.mpr hfirst, ih.mpr ⟨_, hpasses, hdata⟩⟩

theorem loadData_error {loads : List (String × (FeatureIdentity → Op Cause Json))}
    (h : f.loadData data loads w = (.error e, w')) :
    ∃ k key load c, loads[k]? = some (key, load) ∧ Breaks (loads.map (·.2 f.identity)) k w c w' ∧
      e = .loadTemplateData f.name key c := by
  induction loads generalizing data w with
  | nil => cases h
  | cons load loads ih =>
    obtain ⟨key, load⟩ := load
    rw [loadData] at h
    rcases hfirst : load f.identity w with ⟨c | v, w₁⟩
    · rw [bind_error (mapError_eq hfirst)] at h
      cases h
      exact ⟨0, key, load, c, rfl, .here hfirst, rfl⟩
    · rw [bind_ok (mapError_eq hfirst)] at h
      obtain ⟨k, key', load', c, hk, hbreaks, he⟩ := ih h
      exact ⟨k + 1, key', load', c, hk, .later hfirst hbreaks, he⟩

theorem loadData_of_breaks {loads : List (String × (FeatureIdentity → Op Cause Json))}
    {key : String} {load : FeatureIdentity → Op Cause Json} {c : Cause}
    (hk : loads[k]? = some (key, load)) (h : Breaks (loads.map (·.2 f.identity)) k w c w') :
    f.loadData data loads w = (.error (.loadTemplateData f.name key c), w') := by
  induction loads generalizing data w k with
  | nil => cases hk
  | cons first loads ih =>
    obtain ⟨key₀, load₀⟩ := first
    rw [loadData]
    rcases breaks_cons.mp h with ⟨rfl, hfails⟩ | ⟨j, v, w₁, rfl, hfirst, hrest⟩
    · cases hk
      exact bind_error (mapError_eq hfails)
    · rw [bind_ok (mapError_eq hfirst)]
      exact ih hk hrest

theorem createResources_eq (hooks : List FeatureHook) :
    f.createResources hooks = inTurn ((hooks.map (· f.identity)).map (Op.mapError (.resourceCreation f.name))) := by
  induction hooks with
  | nil => rfl
  | cons hook hooks ih => rw [createResources, ih, List.map_cons, List.map_cons, inTurn]

theorem applyObjects_inTurn (os : List Object) :
    f.applyObjects tracker m os = inTurn (os.map (f.applyObject tracker m)) := by
  induction os with
  | nil => rfl
  | cons o os ih => rw [applyObjects, ih, List.map_cons, inTurn]

/-- Applies the objects of one manifest. -/
def applyManifest (f : Feature) (tracker : OwnerReference) (data : Dict Json) (m : Manifest) : Op FeatureError Unit :=
  match m.process data with
  | .error e => throw (.processManifest m.name e)
  | .ok os => f.applyObjects tracker m os

theorem applyManifests_eq (ms : List Manifest) :
    f.applyManifests tracker data ms = inTurn (ms.map (f.applyManifest tracker data)) := by
  induction ms with
  | nil => rfl
  | cons m ms ih =>
    rw [applyManifests, List.map_cons, inTurn, applyManifest, ih]
    cases m.process data with
    | error e => rfl
    | ok os => rfl

/-! ### The step that a failure belongs to -/

/-- Failures of the computation belong to this step. -/
def FailsIn {α : Type} (step : ApplyStep) (x : Op FeatureError α) : Prop :=
  ∀ w e w', x w = (.error e, w') → e.step = step

section
variable {α β ε : Type} {step : ApplyStep} {x : Op FeatureError α}

theorem failsIn_pure (a : α) : FailsIn step (pure a) := fun _ _ _ h => by cases h

theorem failsIn_throw (h : e.step = step) : FailsIn step (throw e : Op FeatureError α) := by
  intro w e' w' he
  cases he
  exact h

theorem failsIn_mapError {g : ε → FeatureError} (h : ∀ e, (g e).step = step) (y : Op ε α) :
    FailsIn step (mapError g y) := by
  intro w e' w' he
  obtain ⟨e, rfl, -⟩ := mapError_eq_error.mp he
  exact h e

theorem FailsIn.bind {g : α → Op FeatureError β} (hx : FailsIn step x) (hg : ∀ a, FailsIn step (g a)) :
    FailsIn step (x >>= g) := by
  intro w e w' h
  rcases hfirst : x w with ⟨e₁ | a, w₁⟩
  · rw [bind_error hfirst] at h
    cases h
    exact hx w e w' hfirst
  · rw [bind_ok hfirst] at h
    exact hg a w₁ e w' h

end

/-- Whatever fails for an object of a manifest fails in the step of the manifests. -/
theorem applyObject_failsIn (o : Object) : FailsIn .applyManifests (f.applyObject tracker m o) := by
  unfold applyObject
  cases o.gvk? with
  | none => exact failsIn_throw rfl
  | some gvk =>
    dsimp only
    refine FailsIn.bind (failsIn_mapError (fun _ => by rfl) _) ?_
    rintro ⟨resource, scope⟩
    dsimp only
    split
    · exact FailsIn.bind (failsIn_mapError (fun _ => by rfl) _) fun _ => failsIn_pure _
    · refine FailsIn.bind (failsIn_mapError (fun _ => by rfl) _) fun existing => ?_
      split
      · exact failsIn_pure _
      · exact FailsIn.bind (failsIn_mapError (fun _ => by rfl) _) fun _ => failsIn_pure _

/-- A manifest fails if it cannot be read, and then nothing is done for it, or as the first of its objects that
    fails. -/
theorem applyManifest_fails (h : f.applyManifest tracker data m w = (.error e, w')) :
    (∃ e', m.process data = .error e' ∧ e = .processManifest m.name e' ∧ w' = w) ∨
      ∃ os k, m.process data = .ok os ∧ Breaks (os.map (f.applyObject tracker m)) k w e w' := by
  unfold applyManifest at h
  cases hread : m.process data with
  | error e' =>
    rw [hread] at h
    cases h
    exact .inl ⟨e', rfl, rfl, rfl⟩
  | ok os =>
    rw [hread] at h
    dsimp only at h
    rw [applyObjects_inTurn] at h
    obtain ⟨k, hbreaks⟩ := inTurn_eq_error.mp h
    exact .inr ⟨os, k, rfl, hbreaks⟩

theorem applyManifest_failsIn : FailsIn .applyManifests (f.applyManifest tracker data m) := by
  intro w e w' h
  rcases applyManifest_fails h with ⟨e', -, rfl, -⟩ | ⟨os, k, -, -, w₁, x, -, hx, hfails⟩
  · rfl
  · rw [List.getElem?_map, Option.map_eq_some_iff] at hx
    obtain ⟨o, -, rfl⟩ := hx
    exact applyObject_failsIn o w₁ e w' hfails

/-! ### The course of an application -/

/-- All preconditions are met, all providers give their values, and all creators pass. -/
inductive Prepared (f : Feature) (w : World) : Dict Json → World → Prop
  | mk {w₁ w₂ w₃ : World} {vs : List Json} {us : List Unit} (met : Runs (f.preconditions.map (· f.identity)) w [] w₁)
    (loaded : Passes (f.data.map (·.2 f.identity)) w₁ vs w₂)
    (created : Passes (f.resources.map (· f.identity)) w₂ us w₃) :
    Prepared f w (collected [(targetNamespaceKey, .str f.targetNamespace)] f.data vs) w₃

/-- What an application does once its tracker is announced, and how it ends: in which step it fails, if it does, and
    with which error. Preconditions and postconditions all run, whatever fails. Providers, creators and manifests run up
    to the first that fails. What is not part of an ending does not run in it. -/
inductive Course (f : Feature) (tracker : OwnerReference) (w : World) :
    Option ApplyStep → Except FeatureError Unit → World → Prop
  | unmet {causes : List Cause} {w₁ : World} (runs : Runs (f.preconditions.map (· f.identity)) w causes w₁)
    (unmet : causes ≠ []) : Course f tracker w (some .preConditions) (.error (.preConditions f.name causes)) w₁
  | unloaded {w₁ w₂ : World} {k : Nat} {key : String} {load : FeatureIdentity → Op Cause Json} {c : Cause}
    (met : Runs (f.preconditions.map (· f.identity)) w [] w₁) (provider : f.data[k]? = some (key, load))
    (breaks : Breaks (f.data.map (·.2 f.identity)) k w₁ c w₂) :
    Course f tracker w (some .loadTemplateData) (.error (.loadTemplateData f.name key c)) w₂
  | uncreated {w₁ w₂ w₃ : World} {vs : List Json} {k : Nat} {c : Cause}
    (met : Runs (f.preconditions.map (· f.identity)) w [] w₁)
    (loaded : Passes (f.data.map (·.2 f.identity)) w₁ vs w₂)
    (breaks : Breaks (f.resources.map (· f.identity)) k w₂ c w₃) :
    Course f tracker w (some .resourceCreation) (.error (.resourceCreation f.name c)) w₃
  | unapplied {w₁ w₂ : World} {data : Dict Json} {k : Nat} {e : FeatureError} (prepared : f.Prepared w data w₁)
    (breaks : Breaks (f.manifests.map (f.applyManifest tracker data)) k w₁ e w₂) :
    Course f tracker w (some .applyManifests) (.error e) w₂
  | unverified {w₁ w₂ w₃ : World} {data : Dict Json} {us : List Unit} {causes : List Cause}
    (prepared : f.Prepared w data w₁) (applied : Passes (f.manifests.map (f.applyManifest tracker data)) w₁ us w₂)
    (runs : Runs (f.postconditions.map (· f.identity)) w₂ causes w₃) (unmet : causes ≠ []) :
    Course f tracker w (some .postConditions) (.error (.postConditions f.name causes)) w₃
  | done {w₁ w₂ w₃ : World} {data : Dict Json} {us : List Unit}
    (prepared : f.Prepared w data w₁) (applied : Passes (f.manifests.map (f.applyManifest tracker data)) w₁ us w₂)
    (met : Runs (f.postconditions.map (· f.identity)) w₂ [] w₃) : Course f tracker w none (.ok ()) w₃

/-- What comes before the manifests fails in one of its steps, or prepares them. -/
theorem prepare_course (tracker : OwnerReference) (w : World) :
    (∃ step e w', f.prepare w = (.error e, w') ∧ f.Course tracker w (some step) (.error e) w') ∨
      ∃ data w', f.prepare w = (.ok data, w') ∧ f.Prepared w data w' := by
  obtain ⟨causes, w₁, hpre, hruns⟩ := FeatureHook.runAll_runs (ε := FeatureError) f.identity f.preconditions w
  unfold prepare
  rw [bind_ok hpre]
  by_cases hcauses : causes = []
  · subst hcauses
    rw [if_neg (by simp)]
    dsimp only
    rcases hloads : f.loadData [(targetNamespaceKey, .str f.targetNamespace)] f.data w₁ with ⟨e | data, w₂⟩
    · rw [bind_error hloads]
      obtain ⟨k, key, load, c, hk, hbreaks, rfl⟩ := loadData_error hloads
      exact .inl ⟨_, _, _, rfl, .unloaded hruns hk hbreaks⟩
    · rw [bind_ok hloads]
      obtain ⟨vs, hpasses, rfl⟩ := loadData_eq_ok.mp hloads
      rcases hcreates : f.createResources f.resources w₂ with ⟨e | _, w₃⟩
      · rw [bind_error hcreates]
        rw [createResources_eq] at hcreates
        obtain ⟨k, hbreaks⟩ := inTurn_eq_error.mp hcreates
        obtain ⟨c, rfl, hcause⟩ := breaks_mapError hbreaks
        exact .inl ⟨_, _, _, rfl, .uncreated hruns hpasses hcause⟩
      · rw [bind_ok hcreates]
        rw [createResources_eq] at hcreates
        obtain ⟨us, hcreated⟩ := inTurn_eq_ok.mp hcreates
        exact .inr ⟨_, _, rfl, .mk hruns hpasses (passes_mapError.mp hcreated)⟩
  · rw [if_pos hcauses]
    exact .inl ⟨_, _, _, rfl, .unmet hruns hcauses⟩

theorem applySteps_course (f : Feature) (tracker : OwnerReference) (w : World) :
    ∃ failed outcome w', f.applySteps tracker w = (outcome, w') ∧ f.Course tracker w failed outcome w' := by
  unfold applySteps
  rcases prepare_course tracker w with ⟨step, e, w₁, hprepare, hcourse⟩ | ⟨data, w₁, hprepare, hprepared⟩
  · exact ⟨_, _, _, bind_error hprepare, hcourse⟩
  · rw [bind_ok hprepare]
    rcases happlies : f.applyManifests tracker data f.manifests w₁ with ⟨e | _, w₂⟩
    · rw [bind_error happlies]
      rw [applyManifests_eq] at happlies
      obtain ⟨k, hbreaks⟩ := inTurn_eq_error.mp happlies
      exact ⟨_, _, _, rfl, .unapplied hprepared hbreaks⟩
    · rw [bind_ok happlies]
      rw [applyManifests_eq] at happlies
      obtain ⟨us, hpasses⟩ := inTurn_eq_ok.mp happlies
      obtain ⟨causes, w₃, hpost, hruns⟩ := FeatureHook.runAll_runs (ε := FeatureError) f.identity f.postconditions w₂
      unfold verify
      rw [bind_ok hpost]
      by_cases hcauses : causes = []
      · subst hcauses
        rw [if_neg (by simp)]
        exact ⟨_, _, _, rfl, .done hprepared hpasses hruns⟩
      · rw [if_pos hcauses]
        exact ⟨_, _, _, rfl, .unverified hprepared hpasses hruns hcauses⟩

/-- An application succeeds just if no step fails. Its error tells the step that failed. -/
theorem Course.step {failed : Option ApplyStep} (h : f.Course tracker w failed outcome w') :
    (failed = none ↔ outcome = .ok ()) ∧
      ∀ e, outcome = .error e → failed = some e.step ∧ e.step ∈ ApplyStep.ofApplication := by
  cases h with
  | unapplied prepared breaks =>
    obtain ⟨as, w₂, x, -, hx, hfails⟩ := breaks
    rw [List.getElem?_map, Option.map_eq_some_iff] at hx
    obtain ⟨m, -, rfl⟩ := hx
    refine ⟨⟨(by cases ·), (by cases ·)⟩, fun e he => ?_⟩
    cases he
    rw [applyManifest_failsIn _ _ _ hfails]
    exact ⟨rfl, by decide⟩
  | done => exact ⟨iff_of_true rfl rfl, fun e he => by cases he⟩
  | _ =>
    refine ⟨⟨(by cases ·), (by cases ·)⟩, fun e he => ?_⟩
    cases he
    exact ⟨rfl, by simp [FeatureError.step, ApplyStep.ofApplication]⟩

/-! ### The report -/

variable {previous : Option TrackerStatus} {progressing : TrackerStatus}

/-- The object shows a status that tells how the application ended. -/
def Tells (f : Feature) (outcome : Except FeatureError Unit) (o : Object) : Prop :=
  ∃ s : TrackerStatus, (∃ phase, s.phase = some phase ∧ o.Shows phase s.conditions) ∧
    match outcome with
    | .ok () => s.TellsReady f.name
    | .error e => s.TellsFailed f.name e.step e.cause.fullMessage

theorem updateTrackerStatus_stored {s : TrackerStatus} {phase : String} (hphase : s.phase = some phase)
    (h : f.updateTrackerStatus s w = (.ok (), w')) :
    ∃ o, w'.cluster.object? f.trackerKey = some o ∧ o.Shows phase s.conditions := by
  obtain ⟨o, ho⟩ := World.patchStatus_stored (mapError_eq_ok.mp h)
  exact ⟨_, ho, TrackerStatus.shows hphase o⟩

theorem report_stored (h : f.report progressing outcome w = (.ok (), w')) :
    ∃ o, w'.cluster.object? f.trackerKey = some o ∧ f.Tells outcome o := by
  obtain ⟨s, w₁, htimed, hupdate⟩ := bind_eq_ok.mp h
  cases htimed
  cases outcome with
  | ok =>
    have htells := TrackerStatus.ready_tells f.name progressing w.clock
    obtain ⟨o, ho, hshows⟩ := updateTrackerStatus_stored htells.1 hupdate
    exact ⟨o, ho, _, ⟨_, htells.1, hshows⟩, htells⟩
  | error e =>
    have htells := TrackerStatus.failed_tells f.name e.step e.cause.fullMessage progressing w.clock
    obtain ⟨o, ho, hshows⟩ := updateTrackerStatus_stored htells.1 hupdate
    exact ⟨o, ho, _, ⟨_, htells.1, hshows⟩, htells⟩

/-! ### Whole applications -/

/-- All calls on the tracker succeed: it is applied, the application is announced in its status, and so is the end. -/
structure Tracked (f : Feature) (tracker : OwnerReference) (w w₁ w₂ : World) (outcome : Except FeatureError Unit)
    (w' : World) : Prop where
  enabled : f.isEnabled = .ok true
  reported : ∃ previous progressing wₜ, f.ensureTracker w = (.ok (tracker, previous), wₜ) ∧
    f.announce previous wₜ = (.ok progressing, w₁) ∧ f.report progressing outcome w₂ = (.ok (), w')

theorem Tracked.apply_eq (h : f.Tracked tracker w w₁ w₂ outcome w') (ended : f.applySteps tracker w₁ = (outcome, w₂)) :
    f.apply w = (outcome, w') := by
  obtain ⟨previous, progressing, wₜ, hensure, hannounce, hreport⟩ := h.reported
  rw [apply_of_enabled h.enabled, bind_ok hensure, applyTracked, bind_ok hannounce,
    bind_ok (Op.outcome_eq (r := outcome) ended), bind_ok (Op.outcome_eq (r := .ok ()) hreport)]
  cases outcome <;> rfl

/-- An application of an enabled feature whose tracker can be applied and written takes its course (`Course`), and that
    gives the result. The status of the tracker tells the end. With an unmet precondition nothing but the tracker is
    written, what the preconditions do themselves apart. -/
theorem apply_takes_course (tracked : f.Tracked tracker w w₁ w₂ outcome w')
    (ended : f.applySteps tracker w₁ = (outcome, w₂)) :
    f.apply w = (outcome, w') ∧
    ∃ failed, f.Course tracker w₁ failed outcome w₂ ∧ (failed = none ↔ outcome = .ok ()) ∧
      (∀ e, outcome = .error e → failed = some e.step ∧ e.step ∈ ApplyStep.ofApplication) ∧
      (∃ o, w'.cluster.object? f.trackerKey = some o ∧ f.Tells outcome o) ∧
      (failed = some .preConditions → ∀ keys : Key → Prop,
        (∀ hook ∈ f.preconditions, Op.Spares keys (hook f.identity)) → w.Quiet →
          ∀ k, keys k → k ≠ f.trackerKey → w'.cluster.object? k = w.cluster.object? k) := by
  obtain ⟨failed, outcome', w₂', hsteps, hcourse⟩ := applySteps_course f tracker w₁
  cases hsteps.symm.trans ended
  obtain ⟨hdone, hfailed⟩ := hcourse.step
  obtain ⟨previous, progressing, wₜ, hensure, hannounce, hreport⟩ := tracked.reported
  refine ⟨tracked.apply_eq ended, failed, hcourse, hdone, hfailed, report_stored hreport, ?_⟩
  rintro rfl keys hspares hquiet k hk hne
  let Q (c : Cluster) : Prop := ∀ k, keys k → k ≠ f.trackerKey → c.object? k = w.cluster.object? k
  have hstatus (s : TrackerStatus) : (f.updateTrackerStatus s).Preserves Q :=
    updateTrackerStatus_preserves (fun c o content _ hc k hk hne =>
      (Cluster.object?_put _ _ _ _).trans ((if_neg hne).trans (hc k hk hne))) s
  have hensured : wₜ.Within Q := by
    have hdoes := ensureTracker_does (f := f) hquiet
    rw [hensure] at hdoes
    refine ⟨hdoes.1, fun k _ hne => ?_⟩
    rcases hdoes.2 with hsame | ⟨o, happly⟩
    · rw [hsame]
    · exact ((Cluster.apply_ok happly).2.1 k).trans (if_neg hne)
  have hannounced : w₁.Within Q := by
    have hwithin : (f.announce previous wₜ).2.Within Q := announce_preserves hstatus wₜ hensured
    rwa [hannounce] at hwithin
  cases hcourse with
  | @unmet causes _ runs _ =>
    have hran : w₂.Within Q := by
      refine runs_within runs (fun x hx => ?_) hannounced
      obtain ⟨hook, hh, rfl⟩ := List.mem_map.mp hx
      exact (hspares hook hh).preserves fun c c' hsame hc k hk hne => (hsame k hk).trans (hc k hk hne)
    have hreported : (f.report progressing (.error (.preConditions f.name causes)) w₂).2.Within Q :=
      report_preserves hstatus w₂ hran
    rw [hreport] at hreported
    exact hreported.cluster k hk hne

namespace Sample

/-- The first of two preconditions is not met. The manifest is never read. -/
def gated : Feature where
  name := "gated"
  targetNamespace := "apps"
  appNamespace := "apps"
  preconditions := [fun _ => throw (.plain "no mesh"), fun _ => pure ()]
  manifests := [⟨"map.yaml", "apiVersion: v1\nkind: ConfigMap\nmetadata:\n  name: settings\n"⟩]

/-- How the preconditions end. -/
def ungated : Except FeatureError Unit := .error (.preConditions "gated" [.plain "no mesh"])

theorem gated_tracked : ∃ tracker w₁ w', gated.Tracked tracker {} w₁ w₁ ungated w' := by
  let steps : Op FeatureError OwnerReference := do
    let tracked ← gated.ensureTracker
    let progressing ← gated.announce tracked.2
    gated.report progressing ungated
    return tracked.1
  have hok : (steps {}).1.isOk = true := by decide +kernel
  rcases hsteps : steps {} with ⟨e | _, w'⟩
  · rw [hsteps] at hok
    cases hok
  · obtain ⟨⟨tracker, previous⟩, wₜ, hensure, hsteps⟩ := bind_eq_ok.mp hsteps
    obtain ⟨progressing, w₁, hannounce, hsteps⟩ := bind_eq_ok.mp hsteps
    obtain ⟨_, _, hreport, hsteps⟩ := bind_eq_ok.mp hsteps
    cases hsteps
    exact ⟨tracker, w₁, w', rfl, previous, progressing, wₜ, hensure, hannounce, hreport⟩

end Sample

open Feature.Sample in
/-- The second precondition runs as well, and the tracker tells of the first one. -/
theorem apply_takes_course_sample : ∃ tracker w₁ w', gated.Tracked tracker {} w₁ w₁ ungated w' ∧
    gated.applySteps tracker w₁ = (ungated, w₁) ∧ gated.apply {} = (ungated, w') ∧
      ∃ o, w'.cluster.object? gated.trackerKey = some o ∧ gated.Tells ungated o := by
  obtain ⟨tracker, w₁, w', htracked⟩ := gated_tracked
  have hended : gated.applySteps tracker w₁ = (ungated, w₁) := rfl
  obtain ⟨happly, _, -, -, -, htold, -⟩ := apply_takes_course htracked hended
  exact ⟨tracker, w₁, w', htracked, hended, happly, htold⟩

end Feature
end PlatformOperator
