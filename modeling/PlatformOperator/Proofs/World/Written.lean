import PlatformOperator.Proofs.Cluster.Calls
import PlatformOperator.Proofs.World.Quiet
import PlatformOperator.Status
import PlatformOperator.Tracker.Status

/-! What a written status leaves in the cluster: its phase and its conditions stand in the stored object, whatever
    status that had before. -/

namespace PlatformOperator

/-- The status of the object has this phase and these conditions. -/
def Object.Shows (o : Object) (phase : String) (conditions : List Condition) : Prop :=
  ∃ status, Dict.get? o.content "status" = some status ∧ status.get? "phase" = some (.str phase) ∧
    status.get? "conditions" = some (.arr (conditions.map Condition.toJson))

theorem Object.withStatus_shows {ms : Dict Json} {phase : String} {conditions : List Condition} (o : Object)
    (hnodup : (ms.map (·.1)).Nodup) (hphase : ms.get? "phase" = some (.str phase))
    (hconditions : ms.get? "conditions" = some (.arr (conditions.map Condition.toJson))) :
    (o.withStatus (.obj ms)).Shows phase conditions := by
  refine ⟨_, o.withStatus_get? _, ?_, ?_⟩
  · exact mergedStatus_get? hnodup hphase (by simp) fun _ => by rw [Json.merge]; simp
  · exact mergedStatus_get? hnodup hconditions (by simp) fun _ => by rw [Json.merge]; simp

theorem PlatformStatus.shows {s : PlatformStatus} {phase : String} (hphase : s.phase = some phase)
    (hconditions : s.conditions ≠ []) (o : Object) : (o.withStatus s.toJson).Shows phase s.conditions := by
  have hnames : ["phase", "observedGeneration", "conditions"].Nodup := by decide
  exact o.withStatus_shows (Dict.nodup_ofList _) (Json.get?_ofPresent hnames (by simp [hphase]))
    (Json.get?_ofPresent hnames (by simp [hconditions]))

theorem TrackerStatus.shows {s : TrackerStatus} {phase : String} (hphase : s.phase = some phase) (o : Object) :
    (o.withStatus s.toJson).Shows phase s.conditions := by
  have hnames : ["phase", "conditions"].Nodup := by decide
  exact o.withStatus_shows (Dict.nodup_ofList _) (Json.get?_ofPresent hnames (by simp [hphase]))
    (Json.get?_ofPresent hnames (by simp))

namespace World
variable {r : ApiResource} {«namespace» : Option String} {name : String} {status : Json} {w w' : World}

/-- After a patch that succeeds the object has the status, whatever arrived with the call. -/
theorem patchStatus_stored (h : patchStatus r «namespace» name status w = (.ok (), w')) :
    ∃ o : Object, w'.cluster.object? (.ofResource r «namespace» name) = some (o.withStatus status) := by
  obtain ⟨_, w₁, -, hchange⟩ := Computation.bind_eq_ok.mp h
  rcases change_cases (fun _ c => (c.patchStatus r «namespace» name status).map ((), ·)) w₁ with
    ⟨e, hfailed⟩ | ⟨a, c, hc, hchanged⟩
  · cases hfailed.symm.trans hchange
  · cases hchanged.symm.trans hchange
    cases hpatch : w₁.cluster.patchStatus r «namespace» name status with
    | error e =>
      rw [hpatch] at hc
      cases hc
    | ok c' =>
      rw [hpatch] at hc
      cases hc
      obtain ⟨o, -, rfl⟩ := Cluster.patchStatus_ok hpatch
      exact ⟨o, (Cluster.object?_put _ _ _ _).trans (if_pos rfl)⟩

/-- Nothing else changes in the cluster, and nothing at all in what the operator keeps and notes down. -/
theorem patchStatus_keeps (quiet : w.Quiet) (h : patchStatus r «namespace» name status w = (.ok (), w')) :
    (∀ k, k ≠ .ofResource r «namespace» name → w'.cluster.object? k = w.cluster.object? k) ∧
      w'.memory = w.memory ∧ w'.journal = w.journal := by
  rcases patchStatus_quiet quiet r «namespace» name status with ⟨e, _, hfailed⟩ | ⟨c, hc, hserved⟩
  · cases hfailed.symm.trans h
  · cases hserved.symm.trans h
    obtain ⟨o, -, rfl⟩ := Cluster.patchStatus_ok hc
    exact ⟨fun k hk => (Cluster.object?_put _ _ _ _).trans (if_neg hk), rfl, rfl⟩

end World
end PlatformOperator
