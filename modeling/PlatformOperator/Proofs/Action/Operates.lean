import PlatformOperator.Action.Collect
import PlatformOperator.Action.Deploy
import PlatformOperator.Action.Deployments
import PlatformOperator.Action.Features
import PlatformOperator.Proofs.Condition.Mirror
import PlatformOperator.Proofs.World.Calls

/-! What actions do to the instance and its conditions: nothing, or operations of the conditions' manager. -/

namespace PlatformOperator

open Computation

/-- The instance is the same in the second state, and operations of their manager alone changed the conditions. -/
def Run.Operating (run run' : Run) : Prop :=
  run'.request.subject = run.request.subject ∧ ∃ ops, run'.request.conditions = run.request.conditions.after ops

instance : IsPreorder Run Run.Operating where
  refl _ := ⟨rfl, [], rfl⟩
  trans _ _ _ := by
    rintro ⟨hsubject, ops, hops⟩ ⟨hsubject', ops', hops'⟩
    exact ⟨hsubject'.trans hsubject, ops ++ ops', by rw [hops', hops, Manager.after_append]⟩

namespace RunM
variable {ε α : Type}

/-- Whatever comes of it, the computation leaves the instance alone, and changes the conditions by
    operations of their manager only. -/
def Operates (x : RunM α) : Prop := Moves Run.Operating x

theorem Operates.of_request {x : RunM α}
    (h : ∀ run, (x run).2.request.subject = run.request.subject ∧
      (x run).2.request.conditions = run.request.conditions) : x.Operates :=
  fun run => ⟨(h run).1, [], (h run).2⟩

theorem Operates.request : Operates request := .of_request fun _ => ⟨rfl, rfl⟩

theorem Operates.ofOp (f : ε → ActionError) (x : Op ε α) : Operates (ofOp f x) := .of_request fun _ => ⟨rfl, rfl⟩

theorem Operates.modifyRequest {f : Request → Request}
    (hf : ∀ r, (f r).subject = r.subject ∧ (f r).conditions = r.conditions) : Operates (modifyRequest f) :=
  .of_request fun run => hf run.request

theorem Operates.modifyConditions {f : Manager → StateM Clock Manager}
    (hf : ∀ m clock, ∃ ops, (f m clock).1 = m.after ops) : Operates (modifyConditions f) :=
  fun run => ⟨rfl, hf run.request.conditions run.world.clock⟩

end RunM

/-! ### The actions at hand -/

namespace Action

theorem deploy_operates : deploy.run.Operates := by
  have hall (owner : OwnerReference) (done os : List Object) : (Deploy.deployAll owner done os).Operates := by
    induction os generalizing done with
    | nil => exact .pure ()
    | cons o os ih =>
      refine RunM.Operates.request.bind fun r => (RunM.Operates.ofOp _ _).bind fun deployed => ?_
      exact Moves.bind (RunM.Operates.modifyRequest fun r => ⟨rfl, rfl⟩) fun _ => ih (done ++ [deployed.getD o])
  refine RunM.Operates.request.bind fun r => ?_
  split
  · exact .throw _
  · exact hall _ _ _

theorem collect_operates (g : GarbageCollector) : (collect g).run.Operates := by
  refine RunM.Operates.request.bind fun r => ?_
  split
  · exact RunM.Operates.ofOp _ _
  · exact .pure ()

theorem deployments_operates (label : Option (String × String)) : (deployments label).run.Operates := by
  refine RunM.Operates.request.bind fun r => (RunM.Operates.ofOp _ _).bind fun counts => ?_
  refine RunM.Operates.modifyConditions fun m clock => ?_
  split
  · exact ⟨[(clock, .mark _ _ _)], rfl⟩
  · exact ⟨[(clock, .mark _ _ _)], rfl⟩

theorem features_operates (s : FeatureSet) : (features s).run.Operates := by
  refine RunM.Operates.request.bind fun r => ?_
  dsimp only
  split
  · exact .throw _
  refine (RunM.Operates.ofOp _ _).bind fun failures => ?_
  -- With and without a condition to report in, the action ends in the same way.
  cases Cause.collect? (failures.map FeatureError.cause) with
  | none =>
    cases s.condition with
    | none => exact .pure ()
    | some t =>
      refine (RunM.Operates.modifyConditions fun m clock => ?_).bind fun _ => .pure ()
      exact ⟨[(clock, .mark _ _ _)], rfl⟩
  | some c =>
    cases s.condition with
    | none => exact .throw _
    | some t =>
      refine (RunM.Operates.modifyConditions fun m clock => ?_).bind fun _ => .throw _
      exact ⟨[(clock, .mark _ _ _)], rfl⟩

end Action

end PlatformOperator
