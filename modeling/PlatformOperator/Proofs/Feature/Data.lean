import PlatformOperator.Proofs.Dict
import PlatformOperator.Proofs.Feature.Protocol

/-! The data that the manifests of a feature are rendered with: what the last provider of a variable gave, and the
    target namespace where no provider is registered for its variable. All manifests get the same data, and none is
    read before all providers gave their values. -/

namespace PlatformOperator
open Computation

namespace Feature
open Op
variable {f : Feature} {tracker : OwnerReference} {w w₁ w₂ : World} {data : Dict Json} {vs : List Json} {c : Cause}
  {k : Nat} {key : String} {load : FeatureIdentity → Op Cause Json}

/-! ### What the providers come to -/

/-- The variables that providers are registered for, in their order. -/
def dataKeys (f : Feature) : List String := f.data.map (·.1)

/-- The data when the providers gave the values `vs`. -/
structure Loaded (f : Feature) (vs : List Json) (data : Dict Json) : Prop where
  provided : ∀ key j, LastAt f.dataKeys key j → data.get? key = vs[j]?
  target : targetNamespaceKey ∉ f.dataKeys → data.get? targetNamespaceKey = some (.str f.targetNamespace)
  others : ∀ key ∉ f.dataKeys, key ≠ targetNamespaceKey → data.get? key = none

theorem loaded_collected (hlength : vs.length = f.data.length) :
    f.Loaded vs (collected [(targetNamespaceKey, .str f.targetNamespace)] f.data vs) := by
  have hlength' : vs.length = f.dataKeys.length := by rw [hlength, dataKeys, List.length_map]
  have hkeys : (f.dataKeys.zip vs).map (·.1) = f.dataKeys := List.map_fst_zip hlength'.ge
  have hvalues : (f.dataKeys.zip vs).map (·.2) = vs := List.map_snd_zip hlength'.le
  rw [collected, ← dataKeys]
  refine ⟨fun key j hlast => ?_, fun hnot => ?_, fun key hnot hne => ?_⟩
  · rw [← hkeys] at hlast
    rw [Dict.get?_foldl_insert_of_lastAt hlast, hvalues]
  · rw [← hkeys] at hnot
    exact Dict.get?_foldl_insert_of_not_mem hnot _
  · rw [← hkeys] at hnot
    rw [Dict.get?_foldl_insert_of_not_mem hnot, Dict.get?_cons, if_neg hne, Dict.get?_nil]

/-- Templates are rendered with the target namespace just if the last provider for its variable, if there is one, gave
    that. -/
theorem Loaded.target_iff (h : f.Loaded vs data) : data.get? targetNamespaceKey = some (.str f.targetNamespace) ↔
    ∀ j, LastAt f.dataKeys targetNamespaceKey j → vs[j]? = some (.str f.targetNamespace) := by
  refine ⟨fun hget j hlast => (h.provided _ j hlast).symm.trans hget, fun hlast => ?_⟩
  by_cases hmem : targetNamespaceKey ∈ f.dataKeys
  · obtain ⟨j, hj⟩ := exists_lastAt hmem
    exact (h.provided _ j hj).trans (hlast j hj)
  · exact h.target hmem

/-! ### What they decide of an application -/

theorem applySteps_of_unloaded (met : Runs (f.preconditions.map (· f.identity)) w [] w₁)
    (provider : f.data[k]? = some (key, load)) (breaks : Breaks (f.data.map (·.2 f.identity)) k w₁ c w₂) :
    f.applySteps tracker w = (.error (.loadTemplateData f.name key c), w₂) := by
  rw [applySteps, prepare]
  refine bind_error ?_
  rw [bind_ok (FeatureHook.runAll_of_runs met), if_neg (by simp)]
  exact bind_error (loadData_of_breaks provider breaks)

/-- What is left of an application once the data is there. -/
def renderWith (f : Feature) (tracker : OwnerReference) (data : Dict Json) : Op FeatureError Unit := do
  f.createResources f.resources
  inTurn (f.manifests.map (f.applyManifest tracker data))
  f.verify

theorem applySteps_of_loaded (met : Runs (f.preconditions.map (· f.identity)) w [] w₁)
    (loaded : Passes (f.data.map (·.2 f.identity)) w₁ vs w₂) : f.applySteps tracker w =
      f.renderWith tracker (collected [(targetNamespaceKey, .str f.targetNamespace)] f.data vs) w₂ := by
  have hload : f.loadData [(targetNamespaceKey, .str f.targetNamespace)] f.data w₁ = _ :=
    loadData_eq_ok.mpr ⟨vs, loaded, rfl⟩
  have hprepare : f.prepare w = (do
      f.createResources f.resources
      return collected [(targetNamespaceKey, .str f.targetNamespace)] f.data vs : Op FeatureError (Dict Json)) w₂ := by
    rw [prepare, bind_ok (FeatureHook.runAll_of_runs met), if_neg (by simp)]
    exact bind_ok hload
  rw [applySteps, renderWith]
  rcases hcreate : f.createResources f.resources w₂ with ⟨e | _, w₃⟩
  · rw [bind_error hcreate] at hprepare
    rw [bind_error hprepare, bind_error hcreate]
  · rw [bind_ok hcreate] at hprepare
    rw [bind_ok hprepare, bind_ok hcreate, applyManifests_eq]

/-- Once the preconditions are met: if all providers give their values, every manifest is rendered with the same data,
    in which each variable has what the last provider registered for it gave. The target namespace stands under its
    variable just if no provider gave anything else for that last. If a provider fails, its variable is named, and no
    manifest has a part in the end. -/
theorem manifests_share_data (tracker : OwnerReference) (met : Runs (f.preconditions.map (· f.identity)) w [] w₁) :
    let loads := f.data.map (·.2 f.identity)
    (∀ vs w₂, Passes loads w₁ vs w₂ → ∃ data, f.Loaded vs data ∧
      (data.get? targetNamespaceKey = some (.str f.targetNamespace) ↔
        ∀ j, LastAt f.dataKeys targetNamespaceKey j → vs[j]? = some (.str f.targetNamespace)) ∧
      f.applySteps tracker w = f.renderWith tracker data w₂) ∧
    (∀ k key load c w₂, f.data[k]? = some (key, load) → Breaks loads k w₁ c w₂ →
      ∀ ms, ({ f with manifests := ms } : Feature).applySteps tracker w =
        (.error (.loadTemplateData f.name key c), w₂)) ∧
    ((∃ vs w₂, Passes loads w₁ vs w₂) ∨ ∃ k c w₂, Breaks loads k w₁ c w₂) := by
  intro loads
  refine ⟨fun vs w₂ hpasses => ?_, fun k key load c w₂ hk hbreaks ms => ?_, passes_or_breaks loads w₁⟩
  · have hlength : vs.length = f.data.length := by rw [hpasses.length_eq, List.length_map]
    have hloaded := loaded_collected hlength
    exact ⟨_, hloaded, hloaded.target_iff, applySteps_of_loaded met hpasses⟩
  · exact applySteps_of_unloaded (by exact met) hk hbreaks

namespace Sample

/-- A feature with two values for one variable. -/
def layered : Feature where
  name := "layered"
  targetNamespace := "apps"
  appNamespace := "apps"
  data := [("Mode", fun _ => pure (.str "strict")), ("Mode", fun _ => pure (.str "relaxed"))]

/-- A map that a template puts into the target namespace, as far as the template knows it. -/
def redirected : Feature where
  name := "redirected"
  targetNamespace := "apps"
  appNamespace := "apps"
  data := [(targetNamespaceKey, fun _ => pure (.str "elsewhere"))]
  manifests := [⟨"map.tmpl.yaml",
    "apiVersion: v1\nkind: ConfigMap\nmetadata:\n  name: settings\n  namespace: \x7b\x7b TargetNamespace \x7d\x7d\n"⟩]

end Sample

open Feature.Sample in
/-- The second value wins, beside the target namespace. -/
theorem manifests_share_data_sample :
    let tracker : OwnerReference := default
    ∃ data, layered.applySteps tracker {} = layered.renderWith tracker data {} ∧
      data.get? "Mode" = some (.str "relaxed") ∧ data.get? targetNamespaceKey = some (.str "apps") := by
  intro tracker
  obtain ⟨hpass, -, -⟩ := manifests_share_data (f := layered) tracker .nil
  obtain ⟨data, hloaded, -, happlies⟩ := hpass _ _ (.cons rfl (.cons rfl .nil))
  exact ⟨data, happlies, hloaded.provided "Mode" 1 ⟨rfl, by decide⟩, hloaded.target (by decide)⟩

open Feature.Sample in
/-- A provider for the variable of the target namespace decides where the map goes. -/
theorem provider_redirects :
    let k («namespace» : String) : Key := ⟨"", "ConfigMap", some «namespace», "settings"⟩
    redirected.targetNamespace = "apps" ∧
      (∃ data w', redirected.prepare {} = (.ok data, w') ∧ data.get? targetNamespaceKey = some (.str "elsewhere")) ∧
        (redirected.apply {}).1 = .ok () ∧ (redirected.apply {}).2.cluster.object? (k "apps") = none ∧
          (redirected.apply {}).2.cluster.object? (k "elsewhere") ≠ none := by
  intro k
  have happly : (redirected.apply {}).1.isOk = true ∧ (redirected.apply {}).2.cluster.object? (k "apps") = none ∧
      (redirected.apply {}).2.cluster.object? (k "elsewhere") ≠ none := by decide +kernel
  obtain ⟨hok, hplaces⟩ := happly
  exact ⟨rfl, ⟨_, _, rfl, by decide⟩, fst_eq_ok_of_isOk hok, hplaces⟩

end Feature
end PlatformOperator
