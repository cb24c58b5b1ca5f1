import PlatformOperator.Feature.Application
import PlatformOperator.Proofs.Action.Deploy
import PlatformOperator.Proofs.Cluster.Calls
import PlatformOperator.Proofs.World.Quiet

/-! Applying a feature is a sequence of steps, one for each object of its manifests (`Feature.applyEach`). What the
    rest of the application keeps holds at every step it comes to and in the end, unless one of the steps breaks it
    (`Feature.Visits.within`, `Feature.apply_within`). -/

namespace PlatformOperator

/-- The calls made between two worlds tell what was applied. -/
theorem World.applied_eq {w w' : World} {calls : List Call} (h : w'.calls = w.calls ++ calls) :
    w.applied w' = calls.filterMap Call.applied? := by
  rw [applied, h, List.drop_left]

/-- What is no template reads the same with any data. -/
theorem Manifest.process_of_plain {m : Manifest} (h : m.isTemplate = false) (data : Dict Json) :
    m.process data = m.objectsFrom 0 (Yaml.documents m.content) := by
  rw [process, rendered, if_neg (by rw [h]; decide)]
  rfl

/-- The objects of manifests, each with its manifest, up to the first manifest that cannot be processed. -/
def Manifest.objects (data : Dict Json) : List Manifest → List (Manifest × Object)
  | [] => []
  | m :: ms =>
    match m.process data with
    | .error _ => []
    | .ok os => os.map (m, ·) ++ objects data ms

theorem Manifest.mem_objects {data : Dict Json} {ms : List Manifest} {m : Manifest} {o : Object}
    (h : (m, o) ∈ objects data ms) : m ∈ ms ∧ ∃ os, m.process data = .ok os ∧ o ∈ os := by
  induction ms with
  | nil => cases h
  | cons m₁ ms ih =>
    rw [objects] at h
    split at h
    · cases h
    · rename_i os hos
      rcases List.mem_append.mp h with hfirst | hrest
      · obtain ⟨o₁, ho₁, heq⟩ := List.mem_map.mp hfirst
        cases heq
        exact ⟨List.mem_cons_self, os, hos, ho₁⟩
      · obtain ⟨hm, hos⟩ := ih hrest
        exact ⟨List.mem_cons_of_mem _ hm, hos⟩

namespace Feature
open Computation Op
variable {f : Feature} {Q : Cluster → Prop} {keys : Key → Prop} {tracker : OwnerReference} {m : Manifest}
  {o : Object} {w w₁ w₂ w' : World} {data : Dict Json} {xs ys : List (Manifest × Object)} {x : Manifest × Object}
  {previous : Option TrackerStatus}

/-! ### What comes before and after the steps -/

/-- The steps that the feature is given, those of its cleanup apart, leave the objects at the keys alone. -/
structure Spares (f : Feature) (keys : Key → Prop) : Prop where
  preconditions : ∀ hook ∈ f.preconditions, Op.Spares keys (hook f.identity)
  data : ∀ d ∈ f.data, Op.Spares keys (d.2 f.identity)
  resources : ∀ hook ∈ f.resources, Op.Spares keys (hook f.identity)
  postconditions : ∀ hook ∈ f.postconditions, Op.Spares keys (hook f.identity)

/-- The steps that the feature is given, those of its cleanup apart, keep the cluster as `Q` says. -/
structure Keeps (f : Feature) (Q : Cluster → Prop) : Prop where
  preconditions : ∀ hook ∈ f.preconditions, (hook f.identity).Preserves Q
  data : ∀ d ∈ f.data, (d.2 f.identity).Preserves Q
  resources : ∀ hook ∈ f.resources, (hook f.identity).Preserves Q
  postconditions : ∀ hook ∈ f.postconditions, (hook f.identity).Preserves Q

/-- What is about spared objects alone is kept. -/
theorem Spares.keeps (h : f.Spares keys)
    (hQ : ∀ c c' : Cluster, (∀ k, keys k → c'.object? k = c.object? k) → Q c → Q c') : f.Keeps Q where
  preconditions hook hh := (h.preconditions hook hh).preserves hQ
  data d hd := (h.data d hd).preserves hQ
  resources hook hh := (h.resources hook hh).preserves hQ
  postconditions hook hh := (h.postconditions hook hh).preserves hQ

theorem runAll_preserves {ε : Type} {identity : FeatureIdentity} :
    ∀ {hooks : List FeatureHook}, (∀ hook ∈ hooks, (hook identity).Preserves Q) →
      (FeatureHook.runAll identity hooks : Op ε _).Preserves Q
  | [], _ => .pure _
  | hook :: hooks, h => by
    have hrest : (FeatureHook.runAll identity hooks : Op ε _).Preserves Q :=
      runAll_preserves fun hook hh => h hook (List.mem_cons_of_mem _ hh)
    refine Moves.bind (h hook List.mem_cons_self).outcome fun outcome => ?_
    cases outcome with
    | ok => exact hrest
    | error cause => exact hrest.bind fun _ => .pure _

theorem loadData_preserves : ∀ {loads : List (String × (FeatureIdentity → Op Cause Json))} {data : Dict Json},
    (∀ d ∈ loads, (d.2 f.identity).Preserves Q) → (f.loadData data loads).Preserves Q
  | [], _, _ => .pure _
  | (_, _) :: _, _, h =>
    Moves.bind (h _ List.mem_cons_self).mapError fun _ =>
      loadData_preserves fun d hd => h d (List.mem_cons_of_mem _ hd)

theorem createResources_preserves :
    ∀ {hooks : List FeatureHook}, (∀ hook ∈ hooks, (hook f.identity).Preserves Q) →
      (f.createResources hooks).Preserves Q
  | [], _ => .pure _
  | _ :: _, h =>
    Moves.bind (h _ List.mem_cons_self).mapError fun _ =>
      createResources_preserves fun hook hh => h hook (List.mem_cons_of_mem _ hh)

theorem prepare_preserves (keeps : f.Keeps Q) : f.prepare.Preserves Q := by
  refine Moves.bind (runAll_preserves keeps.preconditions) fun unmet => ?_
  split
  · exact .throw _
  · exact Moves.bind (loadData_preserves keeps.data) fun data =>
      Moves.bind (createResources_preserves keeps.resources) fun _ => .pure _

theorem verify_preserves (keeps : f.Keeps Q) : f.verify.Preserves Q := by
  refine Moves.bind (runAll_preserves keeps.postconditions) fun unmet => ?_
  split
  · exact .throw _
  · exact .pure _

/-! ### The steps one after another -/

/-- Applies objects, each of its manifest. -/
def applyEach (f : Feature) (tracker : OwnerReference) : List (Manifest × Object) → Op FeatureError Unit
  | [] => return ()
  | (m, o) :: xs => do
    f.applyObject tracker m o
    f.applyEach tracker xs

theorem applyEach_append : f.applyEach tracker (xs ++ ys) =
    (f.applyEach tracker xs >>= fun _ => f.applyEach tracker ys) := by
  induction xs with
  | nil => rw [List.nil_append, applyEach, pure_bind]
  | cons x xs ih =>
    obtain ⟨m, o⟩ := x
    rw [List.cons_append, applyEach, applyEach, ih, bind_assoc]

theorem applyObjects_eq {os : List Object} : f.applyObjects tracker m os = f.applyEach tracker (os.map (m, ·)) := by
  induction os with
  | nil => rfl
  | cons o os ih => rw [applyObjects, List.map_cons, applyEach, ih]

/-- A manifest that cannot be processed ends the application without touching the world. -/
theorem applyManifests_snd {ms : List Manifest} :
    (f.applyManifests tracker data ms w).2 = (f.applyEach tracker (Manifest.objects data ms) w).2 := by
  induction ms generalizing w with
  | nil => rfl
  | cons m ms ih =>
    rw [applyManifests, Manifest.objects]
    cases m.process data with
    | error e => rfl
    | ok os =>
      dsimp only
      rw [applyEach_append, applyObjects_eq]
      rcases h : f.applyEach tracker (os.map (m, ·)) w with ⟨e | _, w₁⟩
      · rw [bind_error h, bind_error h]
      · rw [bind_ok h, bind_ok h, ih]

/-- Applying the objects from `w` on comes to `x` in `w₁`. -/
def Comes (f : Feature) (tracker : OwnerReference) (xs : List (Manifest × Object)) (w : World) (x : Manifest × Object)
    (w₁ : World) : Prop :=
  ∃ before after, xs = before ++ x :: after ∧ f.applyEach tracker before w = (.ok (), w₁)

theorem Comes.append (h : f.Comes tracker xs w x w₁) : f.Comes tracker (xs ++ ys) w x w₁ := by
  obtain ⟨before, after, rfl, hbefore⟩ := h
  exact ⟨before, after ++ ys, by simp, hbefore⟩

theorem Comes.later (hbefore : f.applyEach tracker xs w = (.ok (), w₁)) (h : f.Comes tracker ys w₁ x w₂) :
    f.Comes tracker (xs ++ ys) w x w₂ := by
  obtain ⟨before, after, rfl, hrest⟩ := h
  refine ⟨xs ++ before, after, by simp, ?_⟩
  rw [applyEach_append]
  exact (bind_ok hbefore).trans hrest

/-- What every step keeps that is come to is kept by all of them. -/
theorem applyEach_within (hw : w.Within Q)
    (hstep : ∀ x w₁, f.Comes tracker xs w x w₁ → w₁.Within Q → (f.applyObject tracker x.1 x.2 w₁).2.Within Q) :
    (f.applyEach tracker xs w).2.Within Q := by
  induction xs generalizing w with
  | nil => exact hw
  | cons x xs ih =>
    obtain ⟨m, o⟩ := x
    refine bind_ends (hstep (m, o) w ⟨[], xs, rfl, rfl⟩ hw) fun _ w₁ hfirst hw₁ => ?_
    refine ih hw₁ fun x w₂ hx => hstep x w₂ ?_
    have hone : f.applyEach tracker [(m, o)] w = (.ok (), w₁) := bind_ok hfirst
    exact Comes.later hone hx

theorem Comes.within (h : f.Comes tracker xs w x w₁) (hw : w.Within Q)
    (hstep : ∀ x w₁, f.Comes tracker xs w x w₁ → w₁.Within Q → (f.applyObject tracker x.1 x.2 w₁).2.Within Q) :
    w₁.Within Q := by
  obtain ⟨before, after, rfl, hbefore⟩ := h
  have hreached := applyEach_within hw fun x w₂ hx => hstep x w₂ hx.append
  rw [hbefore] at hreached
  exact hreached

/-- What a step establishes is there in the end if the steps after it keep it. -/
theorem Comes.rest_within (h : f.Comes tracker xs w x w₁) (hx : (f.applyObject tracker x.1 x.2 w₁).2.Within Q)
    (hstep : ∀ x w₁, f.Comes tracker xs w x w₁ → w₁.Within Q → (f.applyObject tracker x.1 x.2 w₁).2.Within Q) :
    (f.applyEach tracker xs w).2.Within Q := by
  obtain ⟨before, after, rfl, hbefore⟩ := h
  rw [applyEach_append, bind_ok hbefore]
  refine bind_ends hx fun _ w₂ hfirst hw₂ => applyEach_within hw₂ fun y w₃ hy => hstep y w₃ ?_
  have hone : f.applyEach tracker [x] w₁ = (.ok (), w₂) := bind_ok hfirst
  exact Comes.later hbefore (Comes.later hone hy)

/-! ### Whole applications -/

/-- What comes before the steps. -/
def enter (f : Feature) : Op FeatureError (OwnerReference × Dict Json) := do
  let (tracker, previous) ← f.ensureTracker
  let _ ← f.announce previous
  let data ← f.prepare
  return (tracker, data)

theorem enter_eq_ok : f.enter w = (.ok (tracker, data), w₁) ↔
    ∃ previous wₜ progressing wₐ, f.ensureTracker w = (.ok (tracker, previous), wₜ) ∧
      f.announce previous wₜ = (.ok progressing, wₐ) ∧ f.prepare wₐ = (.ok data, w₁) := by
  unfold enter
  simp only [bind_eq_ok]
  constructor
  · rintro ⟨⟨tracker', previous⟩, wₜ, hensure, progressing, wₐ, hannounce, data', wₑ, hprepare, h⟩
    cases h
    exact ⟨previous, wₜ, progressing, wₐ, hensure, hannounce, hprepare⟩
  · rintro ⟨previous, wₜ, progressing, wₐ, hensure, hannounce, hprepare⟩
    exact ⟨_, wₜ, hensure, progressing, wₐ, hannounce, data, w₁, hprepare, rfl⟩

/-- Applying the feature in `w` comes to the object `o` of the manifest `m` in `w₁`, with `tracker` as owner. -/
def Visits (f : Feature) (w : World) (tracker : OwnerReference) (m : Manifest) (o : Object) (w₁ : World) : Prop :=
  ∃ data wₑ, f.enter w = (.ok (tracker, data), wₑ) ∧ f.Comes tracker (Manifest.objects data f.manifests) wₑ (m, o) w₁

theorem Visits.mem (h : f.Visits w tracker m o w₁) :
    m ∈ f.manifests ∧ ∃ data os, m.process data = .ok os ∧ o ∈ os := by
  obtain ⟨data, wₑ, -, before, after, hobjects, -⟩ := h
  have hmem : (m, o) ∈ Manifest.objects data f.manifests := by rw [hobjects]; simp
  obtain ⟨hm, os, hos, ho⟩ := Manifest.mem_objects hmem
  exact ⟨hm, data, os, hos, ho⟩

section
variable (keeps : f.Keeps Q) (hstatus : ∀ status, (f.updateTrackerStatus status).Preserves Q)

include hstatus in
theorem announce_preserves : (f.announce previous).Preserves Q :=
  Moves.bind (preserves_timed _) fun _ => Moves.bind (hstatus _) fun _ => .pure _

include hstatus in
theorem report_preserves {progressing : TrackerStatus} {outcome : Except FeatureError Unit} :
    (f.report progressing outcome).Preserves Q :=
  Moves.bind (preserves_timed _) fun _ => hstatus _

include hstatus in
theorem applyTracked_of_announced {progressing : TrackerStatus} (h : f.announce previous w = (.ok progressing, w₁))
    (hsteps : (f.applySteps tracker w₁).2.Within Q) : (f.applyTracked tracker previous w).2.Within Q := by
  rw [applyTracked, bind_ok h]
  refine bind_ends hsteps fun outcome w₂ _ hw₂ => ?_
  refine bind_ends (report_preserves hstatus w₂ hw₂) fun reported w₃ _ hw₃ => ?_
  rcases outcome with e | _
  · exact hw₃
  · rcases reported with e | _ <;> exact hw₃

theorem apply_of_enabled (enabled : f.isEnabled = .ok true) :
    f.apply = (f.ensureTracker >>= fun p => f.applyTracked p.1 p.2) := by
  rw [apply, enabled]

include keeps hstatus

theorem apply_of_entered (h : f.enter w = (.ok (tracker, data), w₁)) (enabled : f.isEnabled = .ok true)
    (hsteps : (f.applyEach tracker (Manifest.objects data f.manifests) w₁).2.Within Q) : (f.apply w).2.Within Q := by
  obtain ⟨previous, wₜ, progressing, wₐ, hensure, hannounce, hprepare⟩ := enter_eq_ok.mp h
  rw [apply_of_enabled enabled, bind_ok hensure]
  refine applyTracked_of_announced hstatus hannounce ?_
  rw [applySteps, bind_ok hprepare]
  rw [← applyManifests_snd] at hsteps
  exact bind_ends hsteps fun _ w₂ _ hw₂ => verify_preserves keeps w₂ hw₂

theorem entered_within (h : f.enter w = (.ok (tracker, data), w₁)) (hensure : (f.ensureTracker w).2.Within Q) :
    w₁.Within Q := by
  obtain ⟨previous, wₜ, progressing, wₐ, htracker, hannounce, hprepare⟩ := enter_eq_ok.mp h
  rw [htracker] at hensure
  have hwₐ : (f.announce previous wₜ).2.Within Q := announce_preserves hstatus wₜ hensure
  rw [hannounce] at hwₐ
  have hwₑ := prepare_preserves keeps wₐ hwₐ
  rw [hprepare] at hwₑ
  exact hwₑ

variable (hstep : ∀ tracker m o w₁, f.Visits w tracker m o w₁ → w₁.Within Q →
  (f.applyObject tracker m o w₁).2.Within Q)
include hstep

/-- What holds of the tracked feature and is kept by every step holds at each of them. -/
theorem Visits.within (h : f.Visits w tracker m o w₁) (hensure : (f.ensureTracker w).2.Within Q) : w₁.Within Q := by
  obtain ⟨data, wₑ, henters, hcomes⟩ := h
  refine hcomes.within (entered_within keeps hstatus henters hensure) fun x w₂ hx => ?_
  exact hstep _ x.1 x.2 w₂ ⟨data, wₑ, henters, hx⟩

/-- What a step establishes and the others keep holds in the end. -/
theorem Visits.apply_within (h : f.Visits w tracker m o w₁) (enabled : f.isEnabled = .ok true)
    (hx : (f.applyObject tracker m o w₁).2.Within Q) : (f.apply w).2.Within Q := by
  obtain ⟨data, wₑ, henters, hcomes⟩ := h
  refine apply_of_entered keeps hstatus henters enabled (hcomes.rest_within hx fun x w₂ hx => ?_)
  exact hstep _ x.1 x.2 w₂ ⟨data, wₑ, henters, hx⟩

/-- What holds of the tracked feature and is kept by every step holds in the end, wherever that is. -/
theorem apply_within (enabled : f.isEnabled = .ok true) (hensure : (f.ensureTracker w).2.Within Q) :
    (f.apply w).2.Within Q := by
  rcases htracker : f.ensureTracker w with ⟨e | ⟨tracker, previous⟩, wₜ⟩ <;> rw [htracker] at hensure
  · rw [apply_of_enabled enabled, bind_error htracker]
    exact hensure
  have hannounced : (f.announce previous wₜ).2.Within Q := announce_preserves hstatus wₜ hensure
  rcases hannounce : f.announce previous wₜ with ⟨e | progressing, wₐ⟩ <;> rw [hannounce] at hannounced
  · rw [apply_of_enabled enabled, bind_ok htracker, applyTracked, bind_error hannounce]
    exact hannounced
  have hprepared := prepare_preserves keeps wₐ hannounced
  rcases hprepare : f.prepare wₐ with ⟨e | data, wₑ⟩ <;> rw [hprepare] at hprepared
  · rw [apply_of_enabled enabled, bind_ok htracker]
    refine applyTracked_of_announced hstatus hannounce ?_
    rw [applySteps, bind_error hprepare]
    exact hprepared
  have henters : f.enter w = (.ok (tracker, data), wₑ) :=
    enter_eq_ok.mpr ⟨previous, wₜ, progressing, wₐ, htracker, hannounce, hprepare⟩
  refine apply_of_entered keeps hstatus henters enabled (applyEach_within hprepared fun x w₂ hx => ?_)
  exact hstep _ x.1 x.2 w₂ ⟨data, wₑ, henters, hx⟩

end

end Feature
end PlatformOperator
