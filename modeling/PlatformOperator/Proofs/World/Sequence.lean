import PlatformOperator.Proofs.Computation

/-! Computations one after another: up to the first failure, or all of them whatever fails. -/

namespace PlatformOperator.Computation
variable {σ ε α : Type} {x : ExceptT ε (StateM σ) α} {xs : List (ExceptT ε (StateM σ) α)} {s s₁ s' : σ} {a : α} {e : ε}
  {k : Nat}

/-- All computations of a list succeed, each from where the one before left off, with these results. -/
inductive Passes : List (ExceptT ε (StateM σ) α) → σ → List α → σ → Prop
  | nil {s : σ} : Passes [] s [] s
  | cons {x : ExceptT ε (StateM σ) α} {xs : List (ExceptT ε (StateM σ) α)} {s s₁ s' : σ} {a : α} {as : List α}
    (first : x s = (.ok a, s₁)) (rest : Passes xs s₁ as s') : Passes (x :: xs) s (a :: as) s'

/-- The computations before number `k` succeed, and that one fails: those after it have no part in the end. -/
def Breaks (xs : List (ExceptT ε (StateM σ) α)) (k : Nat) (s : σ) (e : ε) (s' : σ) : Prop :=
  ∃ as s₁ x, Passes (xs.take k) s as s₁ ∧ xs[k]? = some x ∧ x s₁ = (.error e, s')

/-- All computations of a list run, each from where the one before left off, and these are the failures among them. -/
inductive Runs : List (ExceptT ε (StateM σ) α) → σ → List ε → σ → Prop
  | nil {s : σ} : Runs [] s [] s
  | ok {x : ExceptT ε (StateM σ) α} {xs : List (ExceptT ε (StateM σ) α)} {s s₁ s' : σ} {a : α} {es : List ε}
    (first : x s = (.ok a, s₁)) (rest : Runs xs s₁ es s') : Runs (x :: xs) s es s'
  | error {x : ExceptT ε (StateM σ) α} {xs : List (ExceptT ε (StateM σ) α)} {s s₁ s' : σ} {e : ε} {es : List ε}
    (first : x s = (.error e, s₁)) (rest : Runs xs s₁ es s') : Runs (x :: xs) s (e :: es) s'

theorem Breaks.here (h : x s = (.error e, s')) : Breaks (x :: xs) 0 s e s' := ⟨[], s, x, .nil, rfl, h⟩

theorem Breaks.later (first : x s = (.ok a, s₁)) (rest : Breaks xs k s₁ e s') : Breaks (x :: xs) (k + 1) s e s' := by
  obtain ⟨as, s₂, y, hbefore, hy, hfails⟩ := rest
  exact ⟨a :: as, s₂, y, .cons first hbefore, hy, hfails⟩

/-- Where the first computation succeeds, the failure is among the others. -/
theorem breaks_cons : Breaks (x :: xs) k s e s' ↔
    (k = 0 ∧ x s = (.error e, s')) ∨ ∃ j a s₁, k = j + 1 ∧ x s = (.ok a, s₁) ∧ Breaks xs j s₁ e s' := by
  constructor
  · rintro ⟨as, s₂, y, hbefore, hy, hfails⟩
    cases k with
    | zero =>
      cases hbefore
      cases hy
      exact .inl ⟨rfl, hfails⟩
    | succ k =>
      cases hbefore with
      | cons first rest => exact .inr ⟨k, _, _, rfl, first, _, _, y, rest, hy, hfails⟩
  · rintro (⟨rfl, hfails⟩ | ⟨j, a, s₁, rfl, first, rest⟩)
    · exact .here hfails
    · exact .later first rest

theorem Passes.length_eq (h : Passes xs s as s') : as.length = xs.length := by
  induction h with
  | nil => rfl
  | cons _ _ ih => rw [List.length_cons, List.length_cons, ih]

/-- All computations of a list succeed, or one of them is the first that fails. -/
theorem passes_or_breaks (xs : List (ExceptT ε (StateM σ) α)) (s : σ) :
    (∃ as s', Passes xs s as s') ∨ ∃ k e s', Breaks xs k s e s' := by
  induction xs generalizing s with
  | nil => exact .inl ⟨[], s, .nil⟩
  | cons x xs ih =>
    rcases hx : x s with ⟨e | a, s₁⟩
    · exact .inr ⟨0, e, s₁, .here hx⟩
    · rcases ih s₁ with ⟨as, s', hpasses⟩ | ⟨k, e, s', hbreaks⟩
      · exact .inl ⟨a :: as, s', .cons hx hpasses⟩
      · exact .inr ⟨k + 1, e, s', .later hx hbreaks⟩

/-! ### In turn -/

/-- Runs computations one after another up to the first that fails. -/
def inTurn : List (ExceptT ε (StateM σ) Unit) → ExceptT ε (StateM σ) Unit
  | [] => pure ()
  | x :: xs => do
    x
    inTurn xs

section
variable {xs : List (ExceptT ε (StateM σ) Unit)}

/-- They succeed just as all of them do, in their order. -/
theorem inTurn_eq_ok : inTurn xs s = (.ok (), s') ↔ ∃ us, Passes xs s us s' := by
  induction xs generalizing s with
  | nil =>
    constructor
    · intro h
      cases h
      exact ⟨[], .nil⟩
    · rintro ⟨_, h⟩
      cases h
      rfl
  | cons x xs ih =>
    rw [inTurn, bind_eq_ok]
    constructor
    · rintro ⟨u, s₁, hfirst, hrest⟩
      obtain ⟨us, hpasses⟩ := ih.mp hrest
      exact ⟨u :: us, .cons hfirst hpasses⟩
    · rintro ⟨_, h⟩
      cases h with
      | cons hfirst hpasses => exact ⟨_, _, hfirst, ih.mpr ⟨_, hpasses⟩⟩

/-- They fail just as one of them does, after all before that succeeded. -/
theorem inTurn_eq_error : inTurn xs s = (.error e, s') ↔ ∃ k, Breaks xs k s e s' := by
  induction xs generalizing s with
  | nil =>
    constructor
    · intro h
      cases h
    · rintro ⟨k, _, _, _, -, hnone, -⟩
      cases hnone
  | cons x xs ih =>
    rw [inTurn]
    rcases hfirst : x s with ⟨e₁ | u, s₁⟩
    · rw [bind_error hfirst]
      constructor
      · intro h
        cases h
        exact ⟨0, .here hfirst⟩
      · rintro ⟨k, h⟩
        rcases breaks_cons.mp h with ⟨-, hfails⟩ | ⟨_, _, _, -, hpasses, -⟩
        · rw [← hfirst, hfails]
        · cases hfirst.symm.trans hpasses
    · rw [bind_ok hfirst, ih]
      constructor
      · rintro ⟨k, h⟩
        exact ⟨k + 1, .later hfirst h⟩
      · rintro ⟨k, h⟩
        rcases breaks_cons.mp h with ⟨-, hfails⟩ | ⟨j, _, _, -, hpasses, hrest⟩
        · cases hfirst.symm.trans hfails
        · cases hfirst.symm.trans hpasses
          exact ⟨j, hrest⟩

end

end PlatformOperator.Computation
