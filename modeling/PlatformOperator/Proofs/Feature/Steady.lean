import PlatformOperator.Feature.Hook
import PlatformOperator.Proofs.Feature.Step
import PlatformOperator.Proofs.World.Steady

/-! Features whose preconditions, providers, creators and postconditions only look at the world. What comes before and
    after their manifests comes to the same when it runs again. -/

namespace PlatformOperator
open Computation

namespace FeatureHook
variable {ε : Type} {identity : FeatureIdentity} {hooks : List FeatureHook}

theorem runAll_looks (h : ∀ hook ∈ hooks, (hook identity).Steady) : (runAll identity hooks : Op ε _).Looks := by
  induction hooks with
  | nil => exact .pure _
  | cons hook hooks ih =>
    have hrest := ih fun hook hh => h hook (List.mem_cons_of_mem _ hh)
    refine (h hook List.mem_cons_self).looks.outcome.bind fun outcome => ?_
    cases outcome with
    | ok => exact hrest
    | error cause => exact hrest.bind fun _ => .pure _

/-- Hooks that all passed pass again. -/
theorem runAll_lasts (h : ∀ hook ∈ hooks, (hook identity).Steady) : (runAll identity hooks : Op ε _).Lasts [] := by
  induction hooks with
  | nil => exact fun _ _ _ _ _ => rfl
  | cons hook hooks ih =>
    intro w w' calm hpersists hpass
    have hsteady := h hook List.mem_cons_self
    rcases hfirst : hook identity w with ⟨cause | _, w₁⟩
    · rw [runAll, bind_ok (Op.outcome_eq hfirst)] at hpass
      obtain ⟨causes, _, -, hcauses⟩ := bind_eq_ok.mp (Prod.ext hpass rfl)
      cases hcauses
    · obtain ⟨w₁', hagain, hbetween, -⟩ := hsteady.again calm hpersists hfirst
      obtain ⟨-, hadvances⟩ := hsteady.looks w calm
      rw [hfirst] at hadvances
      rw [runAll, bind_ok (Op.outcome_eq hfirst)] at hpass
      rw [runAll, bind_ok (Op.outcome_eq hagain)]
      exact ih (fun hook hh => h hook (List.mem_cons_of_mem _ hh)) _ _ (hadvances.calm calm) hbetween hpass

/-- Asking for a definition is steady: once it is there, it stays. -/
theorem ensureDefinition_steady (name : String) (f : FeatureIdentity) : (ensureDefinition name f).Steady := by
  unfold ensureDefinition
  refine (World.resolve_steady _).mapError.bind ?_
  rintro ⟨definitions, scope⟩
  dsimp only
  refine ⟨(World.getObject_looks _ _ _).mapError.bind fun found => ?_, ?_⟩
  · split
    · exact .throw _
    · exact .pure _
  · rintro ⟨⟩ w w' calm hpersists h
    obtain ⟨found, w₁, hget, hfound⟩ := Computation.bind_eq_ok.mp (Prod.ext h rfl)
    rw [Op.mapError_eq_ok, World.getObject_calm calm] at hget
    cases hget
    have hthere : (w.cluster.get definitions none name).isSome := by
      cases hnone : w.cluster.get definitions none name with
      | none =>
        rw [hnone] at hfound
        cases hfound
      | some o => rfl
    obtain ⟨o, ho⟩ := Option.isSome_iff_exists.mp (hpersists.present _ hthere)
    have ho : w'.cluster.get definitions none name = some o := ho
    have hget' := World.getObject_calm (hpersists.settings.calm calm) definitions none name
    rw [Computation.bind_ok (Op.mapError_eq hget'), ho]
    rfl

end FeatureHook

namespace Feature
open Op
variable {f : Feature} {tracker : OwnerReference} {m : Manifest} {w w₁ w₂ w' : World} {data : Dict Json}

/-- The steps that the feature is given, those of its cleanup apart, only look at the world, and what they came to
    lasts. -/
structure Steady (f : Feature) : Prop where
  preconditions : ∀ hook ∈ f.preconditions, (hook f.identity).Steady
  data : ∀ d ∈ f.data, (d.2 f.identity).Steady
  resources : ∀ hook ∈ f.resources, (hook f.identity).Steady
  postconditions : ∀ hook ∈ f.postconditions, (hook f.identity).Steady

theorem loadData_steady {loads : List (String × (FeatureIdentity → Op Cause Json))}
    (h : ∀ d ∈ loads, (d.2 f.identity).Steady) (data : Dict Json) : (f.loadData data loads).Steady := by
  induction loads generalizing data with
  | nil => exact steady_pure _
  | cons load loads ih =>
    exact (h load List.mem_cons_self).mapError.bind fun v => ih (fun d hd => h d (List.mem_cons_of_mem _ hd)) _

theorem createResources_steady {hooks : List FeatureHook} (h : ∀ hook ∈ hooks, (hook f.identity).Steady) :
    (f.createResources hooks).Steady := by
  induction hooks with
  | nil => exact steady_pure _
  | cons hook hooks ih =>
    exact (h hook List.mem_cons_self).mapError.bind fun _ => ih fun hook hh => h hook (List.mem_cons_of_mem _ hh)

theorem prepare_steady (steady : f.Steady) : f.prepare.Steady := by
  unfold prepare
  refine steady_bind (FeatureHook.runAll_looks steady.preconditions) (fun unmet => ?_) fun unmet => ?_
  · split
    · exact steady_throw _
    · exact (loadData_steady steady.data _).bind fun data =>
        (createResources_steady steady.resources).bind fun _ => steady_pure _
  · by_cases hunmet : unmet = []
    · rw [hunmet]
      exact .inl (FeatureHook.runAll_lasts steady.preconditions)
    · rw [if_pos hunmet]
      exact .inr fun w => ⟨_, rfl⟩

theorem verify_steady (steady : f.Steady) : f.verify.Steady := by
  unfold verify
  refine steady_bind (FeatureHook.runAll_looks steady.postconditions) (fun unmet => ?_) fun unmet => ?_
  · split
    · exact steady_throw _
    · exact steady_pure _
  · by_cases hunmet : unmet = []
    · rw [hunmet]
      exact .inl (FeatureHook.runAll_lasts steady.postconditions)
    · rw [if_pos hunmet]
      exact .inr fun w => ⟨_, rfl⟩

end Feature
end PlatformOperator
