import Mathlib.Order.Defs.Unbundled
import PlatformOperator.Action

/-! Computations with state that can fail: what a sequence comes to, and what may be said of the states before and after
    it once it is known of its parts. -/

namespace PlatformOperator

namespace Computation
variable {σ ε ε' α β : Type} {s s' : σ}

theorem bind_ok {x : ExceptT ε (StateM σ) α} {f : α → ExceptT ε (StateM σ) β} {a : α} (h : x s = (.ok a, s')) :
    (x >>= f) s = f a s' := by
  simp only [bind, ExceptT.bind, ExceptT.mk, StateT.bind, h, ExceptT.bindCont]

theorem bind_error {x : ExceptT ε (StateM σ) α} {f : α → ExceptT ε (StateM σ) β} {e : ε} (h : x s = (.error e, s')) :
    (x >>= f) s = (.error e, s') := by
  simp only [bind, ExceptT.bind, ExceptT.mk, StateT.bind, h, ExceptT.bindCont]
  rfl

/-- A sequence succeeds just as its parts do one after the other. -/
theorem bind_eq_ok {x : ExceptT ε (StateM σ) α} {f : α → ExceptT ε (StateM σ) β} {b : β} :
    (x >>= f) s = (.ok b, s') ↔ ∃ a s₁, x s = (.ok a, s₁) ∧ f a s₁ = (.ok b, s') := by
  rcases hx : x s with ⟨e | a, s₁⟩
  · rw [bind_error hx]
    exact ⟨fun h => (by cases h), fun ⟨_, _, h, _⟩ => (by cases h)⟩
  · rw [bind_ok hx]
    refine ⟨fun h => ⟨a, s₁, rfl, h⟩, fun ⟨_, _, h, h'⟩ => ?_⟩
    cases h
    exact h'

theorem eq_ok_of_isOk {x : ExceptT ε (StateM σ) Unit} (h : (x s).1.isOk = true) : x s = (.ok (), (x s).2) := by
  refine Prod.ext ?_ rfl
  generalize (x s).1 = r at h
  cases r with
  | error e => cases h
  | ok a => rfl

theorem fst_eq_ok_of_isOk {x : ExceptT ε (StateM σ) Unit} (h : (x s).1.isOk = true) : (x s).1 = .ok () :=
  congrArg Prod.fst (eq_ok_of_isOk h)

/-- What follows without touching the state leaves the state as it was. -/
theorem bind_snd {x : ExceptT ε (StateM σ) α} {f : α → ExceptT ε (StateM σ) β} (hf : ∀ a s, (f a s).2 = s) :
    ((x >>= f) s).2 = (x s).2 := by
  rcases hx : x s with ⟨e | a, s₁⟩
  · rw [bind_error hx]
  · rw [bind_ok hx, hf]

theorem bind_congr {x y : ExceptT ε (StateM σ) α} {f g : α → ExceptT ε (StateM σ) β} (h : x s = y s)
    (hfg : ∀ a s₁, y s = (.ok a, s₁) → f a s₁ = g a s₁) : (x >>= f) s = (y >>= g) s := by
  rcases hy : y s with ⟨e | a, s₁⟩
  · rw [bind_error hy, bind_error (h.trans hy)]
  · rw [bind_ok hy, bind_ok (h.trans hy), hfg a s₁ hy]

theorem modify_eq (f : σ → σ) : (modify f : ExceptT ε (StateM σ) PUnit) s = (.ok (), f s) := rfl

theorem get_eq : (get : ExceptT ε (StateM σ) σ) s = (.ok s, s) := rfl

/-- What holds after the first part, and is kept by what follows, holds after a sequence, wherever that ends. -/
theorem bind_ends {P : σ → Prop} {x : ExceptT ε (StateM σ) α} {f : α → ExceptT ε (StateM σ) β} (hx : P (x s).2)
    (hf : ∀ a s₁, x s = (.ok a, s₁) → P s₁ → P (f a s₁).2) : P ((x >>= f) s).2 := by
  rcases h : x s with ⟨e | a, s₁⟩ <;> rw [h] at hx
  · rw [bind_error h]
    exact hx
  · rw [bind_ok h]
    exact hf a s₁ h hx

/-! Relations between the state before a computation and the one after it. -/

/-- Wherever the computation ends, the state it leaves is in relation to the one it found. -/
def Moves (R : σ → σ → Prop) (x : ExceptT ε (StateM σ) α) : Prop := ∀ s, R s (x s).2

/-- The relation of states that are alike in this part. -/
def Leaving {γ : Type} (part : σ → γ) (s s' : σ) : Prop := part s' = part s

instance {γ : Type} (part : σ → γ) : IsPreorder σ (Leaving part) where
  refl _ := rfl
  trans _ _ _ h₁ h₂ := h₂.trans h₁

namespace Moves
variable {R R' : σ → σ → Prop} {x : ExceptT ε (StateM σ) α}

theorem of_snd [Std.Refl R] (h : ∀ s, (x s).2 = s) : Moves R x := fun s => by
  rw [h]
  exact Std.Refl.refl s

theorem pure [Std.Refl R] (a : α) : Moves R (Pure.pure a : ExceptT ε (StateM σ) α) := of_snd fun _ => rfl

theorem throw [Std.Refl R] (e : ε) : Moves R (MonadExcept.throw e : ExceptT ε (StateM σ) α) := of_snd fun _ => rfl

theorem bind [IsTrans σ R] {f : α → ExceptT ε (StateM σ) β} (hx : Moves R x) (hf : ∀ a, Moves R (f a)) :
    Moves R (x >>= f) :=
  fun s => bind_ends (hx s) fun a s₁ _ h => IsTrans.trans s s₁ _ h (hf a s₁)

theorem mono (hx : Moves R x) (h : ∀ s s', R s s' → R' s s') : Moves R' x := fun s => h s _ (hx s)

variable {Q : World → World → Prop} {y : Op ε α}

/-- Another error, or none, makes no difference to the state. -/
theorem mapError {f : ε → ε'} (hy : Moves Q y) : Moves Q (Op.mapError f y) := hy

theorem outcome (hy : Moves Q y) : Moves Q (Op.outcome y : Op ε' _) := hy

end Moves

end Computation

theorem Except.mapError_eq_ok {ε ε' α : Type} {f : ε → ε'} {x : Except ε α} {a : α} :
    x.mapError f = .ok a ↔ x = .ok a := by
  cases x with
  | error e => exact ⟨fun h => (by cases h), fun h => (by cases h)⟩
  | ok a' => exact ⟨fun h => (by cases h; rfl), fun h => (by cases h; rfl)⟩

namespace Op
variable {ε ε' α β : Type} {w w' : World}

theorem mapError_eq_ok {f : ε → ε'} {x : Op ε α} {a : α} : mapError f x w = (.ok a, w') ↔ x w = (.ok a, w') := by
  show ((x w).1.mapError f, (x w).2) = _ ↔ _
  rcases x w with ⟨e | a', w₁⟩ <;> constructor <;> intro h <;> cases h
  · rfl
  · rfl

theorem mapError_eq {f : ε → ε'} {x : Op ε α} {r : Except ε α} (h : x w = (r, w')) :
    mapError f x w = (r.mapError f, w') := by
  show ((x w).1.mapError f, (x w).2) = _
  rw [h]

theorem mapError_bind (f : ε → ε') (x : Op ε α) (k : α → Op ε β) :
    mapError f (x >>= k) = mapError f x >>= fun a => mapError f (k a) := by
  funext w
  rcases h : x w with ⟨e | a, w₁⟩
  · rw [mapError_eq (Computation.bind_error h), Computation.bind_error (mapError_eq h)]
    rfl
  · rw [Computation.bind_ok (mapError_eq h)]
    show ((((x >>= k) w).1).mapError f, ((x >>= k) w).2) = _
    rw [Computation.bind_ok h]
    rfl

theorem timed_eq (f : StateM Clock α) :
    (timed f : Op ε α) w = (.ok (f w.clock).1, { w with clock := (f w.clock).2 }) := rfl

/-- As a value, a result is there in any case. -/
theorem outcome_eq {x : Op ε α} {r : Except ε α} (h : x w = (r, w')) : (outcome x : Op ε' _) w = (.ok r, w') := by
  show (Except.ok (x w).1, (x w).2) = (_, _)
  rw [h]

end Op

namespace RunM
variable {ε α : Type} {run run' : Run}

theorem ofOp_eq_ok {f : ε → ActionError} {x : Op ε α} {a : α} :
    ofOp f x run = (.ok a, run') ↔ x run.world = (.ok a, run'.world) ∧ run'.request = run.request := by
  obtain ⟨world', request'⟩ := run'
  show ((x run.world).1.mapError f, { run with world := (x run.world).2 }) = _ ↔ _
  rcases x run.world with ⟨e | a', w₁⟩ <;> constructor
  · intro h
    cases h
  · rintro ⟨h, -⟩
    cases h
  · intro h
    cases h
    exact ⟨rfl, rfl⟩
  · rintro ⟨h, hrequest⟩
    cases h
    cases hrequest
    rfl

theorem request_eq : request run = (.ok run.request, run) := rfl

end RunM

/-- A pipeline moves as its actions do. -/
theorem Pipeline.runAll_moves {R : Run → Run → Prop} [IsPreorder Run R] {as : List Action}
    (h : ∀ a ∈ as, Computation.Moves R a.run) : Computation.Moves R (runAll as) := by
  induction as with
  | nil => exact .pure ()
  | cons a as ih => exact (h a List.mem_cons_self).bind fun _ => ih fun b hb => h b (List.mem_cons_of_mem a hb)

end PlatformOperator
