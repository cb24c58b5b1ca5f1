import PlatformOperator.Proofs.World.Quiet

/-! Computations that leave some part of the world as it is, whatever comes of them. -/

namespace PlatformOperator

open Computation

/-- The computation leaves this part of the world as it is. -/
def Op.Leaves {ε α γ : Type} (part : World → γ) (x : Op ε α) : Prop := Moves (Leaving part) x

/-- The computation leaves this part of the world as it is. -/
def RunM.Leaves {α γ : Type} (part : World → γ) (x : RunM α) : Prop := Moves (Leaving fun run => part run.world) x

theorem Op.Leaves.eq {ε α γ : Type} {part : World → γ} {x : Op ε α} (hx : x.Leaves part) (w : World) :
    part (x w).2 = part w := hx w

namespace World
variable {α γ : Type} {part : World → γ} {call : Call} {f : Timestamp → Cluster → Except ApiError (α × Cluster)}

/-- A change leaves alone what neither its call touches nor the objects and the clock have a part in. -/
theorem begin_change_leaves (hbegin : (begin call).Leaves part)
    (hpart : ∀ w cluster clock, part { w with cluster, clock } = part w) :
    (begin call >>= fun _ => change f).Leaves part := by
  refine hbegin.bind fun _ w => ?_
  rcases change_cases f w with ⟨e, h⟩ | ⟨a, c, -, h⟩ <;> rw [h] <;> exact hpart w _ _

theorem begin_change_leaves_memory : (begin call >>= fun _ => change f).Leaves (·.memory) :=
  begin_change_leaves (fun _ => rfl) fun _ _ _ => rfl

theorem begin_change_leaves_journal : (begin call >>= fun _ => change f).Leaves (·.journal) :=
  begin_change_leaves (fun _ => rfl) fun _ _ _ => rfl

theorem getObject_leaves_memory (r : ApiResource) («namespace» : Option String) (name : String) :
    (getObject r «namespace» name).Leaves (·.memory) :=
  Moves.bind (fun _ => rfl) fun _ _ => rfl

end World
end PlatformOperator
