import Mathlib.Algebra.BigOperators.Group.Finset.Basic
import PlatformOperator.Poll

/-! Polling ends, and ends when it should. The loop itself has no bound: its semantics is a relation, in which the time
    limit alone ends a polling whose checks keep answering false. The bound on the number of checks never cuts it. -/

namespace PlatformOperator.Poll
variable {σ : Type} {what : String} {limit now checks : Nat} {check : StateM σ Check} {s s' : σ} {found : Check}

/-! ### The loop -/

/-- What a check says of the polling, if it does not answer false. -/
def Check.verdict? (what : String) (c : Check) : Option (Except PollError Unit) :=
  match c.outcome with
  | .ok false => none
  | .ok true => some (.ok ())
  | .error cause => some (.error (.check what cause))

theorem Check.verdict?_eq_none {c : Check} : c.verdict? what = none ↔ c.outcome = .ok false := by
  unfold verdict?
  split <;> simp_all

/-- A polling from time `now` on, with no bound on its checks: when each of them starts, how the polling ends, and
    when. -/
inductive Session (what : String) (limit : Nat) (check : StateM σ Check) :
    Nat → σ → List Nat → Except PollError Unit × Nat → σ → Prop
  /-- The limit strikes during the pause. -/
  | paused {now : Nat} {s : σ} (late : limit < now + interval) :
    Session what limit check now s [] (.error (.timeout what limit), limit) s
  /-- The limit strikes during a check. -/
  | checking {now : Nat} {s s' : σ} {found : Check} (starts : now + interval ≤ limit) (ran : check s = (found, s'))
    (late : limit < now + interval + found.duration) :
    Session what limit check now s [now + interval] (.error (.timeout what limit), limit) s'
  | decided {now : Nat} {s s' : σ} {found : Check} {verdict : Except PollError Unit} (ran : check s = (found, s'))
    (inTime : now + interval + found.duration ≤ limit) (answer : found.verdict? what = some verdict) :
    Session what limit check now s [now + interval] (verdict, now + interval + found.duration) s'
  | again {now : Nat} {s s₁ s' : σ} {found : Check} {starts : List Nat} {result : Except PollError Unit × Nat}
    (ran : check s = (found, s₁)) (inTime : now + interval + found.duration ≤ limit)
    (unmet : found.outcome = .ok false)
    (rest : Session what limit check (now + interval + found.duration) s₁ starts result s') :
    Session what limit check now s ((now + interval) :: starts) result s'

theorem go_of_late (h : limit < now + interval) (checks : Nat) (s : σ) :
    go what limit check (checks + 1) now s = ((.error (.timeout what limit), limit), s) := by
  rw [go, if_pos h]
  rfl

theorem go_of_ran (h : ¬limit < now + interval) (ran : check s = (found, s')) (checks : Nat) :
    go what limit check (checks + 1) now s =
      if limit < now + interval + found.duration then ((.error (.timeout what limit), limit), s')
      else match found.verdict? what with
        | some verdict => ((verdict, now + interval + found.duration), s')
        | none => go what limit check checks (now + interval + found.duration) s' := by
  rw [go, if_neg h]
  show (check >>= _) s = _
  simp only [bind, StateT.bind, ran, Check.verdict?]
  split
  · rfl
  · cases found.outcome with
    | error cause => rfl
    | ok answer => cases answer <;> rfl

/-- Each check comes after a pause, so that many checks reach beyond the limit. -/
theorem go_session (h : limit < now + interval * checks) (s : σ) :
    ∃ starts, Session what limit check now s starts (go what limit check checks now s).1
      (go what limit check checks now s).2 := by
  induction checks generalizing now s with
  | zero => exact ⟨[], .paused (Nat.lt_add_right interval h)⟩
  | succ checks ih =>
    by_cases hpaused : limit < now + interval
    · rw [go_of_late hpaused]
      exact ⟨[], .paused hpaused⟩
    rcases ran : check s with ⟨found, s₁⟩
    rw [go_of_ran hpaused ran]
    by_cases hlate : limit < now + interval + found.duration
    · rw [if_pos hlate]
      exact ⟨_, .checking (Nat.le_of_not_lt hpaused) ran hlate⟩
    · rw [if_neg hlate]
      have inTime := Nat.le_of_not_lt hlate
      cases hverdict : found.verdict? what with
      | some verdict => exact ⟨_, .decided ran inTime hverdict⟩
      | none =>
        -- This check took one pause, so the checks that are left still reach beyond the limit.
        have hrest : limit < now + interval + found.duration + interval * checks := by
          rw [Nat.mul_succ] at h
          omega
        obtain ⟨starts, rest⟩ := ih hrest s₁
        exact ⟨_, .again ran inTime (Check.verdict?_eq_none.mp hverdict) rest⟩

theorem untilHolds_session (what : String) (limit : Nat) (check : StateM σ Check) (s : σ) :
    ∃ starts, Session what limit check 0 s starts (untilHolds what limit check s).1 (untilHolds what limit check s).2 := by
  refine go_session ?_ s
  rw [Nat.zero_add, Nat.mul_comm]
  exact Nat.lt_mul_of_div_lt (Nat.lt_succ_self _) (by decide)

/-! ### Checks that answer a sequence -/

variable {seq : Nat → Check} {n made : Nat} {starts : List Nat} {result : Except PollError Unit × Nat}

/-- Checks that answer what the sequence gives. The state is the number of checks made. -/
def script (seq : Nat → Check) : StateM Nat Check := fun n => (seq n, n + 1)

/-- The time at which the first `n` checks are over. -/
def ended (seq : Nat → Check) (n : Nat) : Nat := ∑ i ∈ Finset.range n, (interval + (seq i).duration)

/-- The first check that does not answer false. -/
def Decides (seq : Nat → Check) (i : Nat) : Prop :=
  (∀ j < i, (seq j).outcome = .ok false) ∧ (seq i).outcome ≠ .ok false

theorem ended_succ (seq : Nat → Check) (n : Nat) :
    ended seq (n + 1) = ended seq n + interval + (seq n).duration := by
  rw [ended, Finset.sum_range_succ, Nat.add_assoc]
  rfl

theorem ended_mono (seq : Nat → Check) : Monotone (ended seq) :=
  monotone_nat_of_le_succ fun n => by rw [ended_succ, Nat.add_assoc]; exact Nat.le_add_right _ _

theorem ended_succ_le (seq : Nat → Check) {i : Nat} (h : n ≤ i) :
    ended seq n + interval + (seq n).duration ≤ ended seq (i + 1) :=
  ended_succ seq n ▸ ended_mono seq (Nat.succ_le_succ h)

/-- From check number `n` on, the first check that does not answer false decides if it ends in time. -/
def Concludes (what : String) (limit : Nat) (seq : Nat → Check) (n : Nat) (result : Except PollError Unit × Nat) : Prop :=
  (∃ i verdict, (∀ j, n ≤ j → j < i → (seq j).outcome = .ok false) ∧ ended seq (i + 1) ≤ limit ∧
    (seq i).verdict? what = some verdict ∧ result = (verdict, ended seq (i + 1))) ∨
  (∀ i, n ≤ i → ended seq (i + 1) ≤ limit → (seq i).outcome = .ok false) ∧
    result = (.error (.timeout what limit), limit)

theorem Session.concludes (h : Session what limit (script seq) now n starts result made) (hnow : now = ended seq n) :
    Concludes what limit seq n result := by
  induction h with
  | @paused now n late =>
    subst hnow
    refine .inr ⟨fun i hi hended => absurd hended ?_, rfl⟩
    have hover := ended_succ_le seq hi
    omega
  | @checking now n made found _ ran late =>
    subst hnow
    cases ran
    refine .inr ⟨fun i hi hended => absurd hended ?_, rfl⟩
    have hover := ended_succ_le seq hi
    omega
  | @decided now n made found verdict ran inTime hverdict =>
    subst hnow
    cases ran
    rw [← ended_succ] at inTime ⊢
    exact .inl ⟨n, verdict, fun j hle hlt => absurd hle (Nat.not_le_of_lt hlt), inTime, hverdict, rfl⟩
  | @again now n n₁ made found starts result ran inTime unmet rest ih =>
    subst hnow
    cases ran
    have hfirst {j : Nat} (hj : n ≤ j) (hrest : n + 1 ≤ j → (seq j).outcome = .ok false) :
        (seq j).outcome = .ok false := by
      rcases Nat.eq_or_lt_of_le hj with rfl | hlt
      · exact unmet
      · exact hrest hlt
    refine (ih (ended_succ seq n).symm).imp ?_ ?_
    · rintro ⟨i, verdict, hfalse, hended⟩
      exact ⟨i, verdict, fun j hj hlt => hfirst hj fun hj' => hfalse j hj' hlt, hended⟩
    · rintro ⟨hfalse, hresult⟩
      exact ⟨fun i hi hended => hfirst hi fun hi' => hfalse i hi' hended, hresult⟩

/-- The checks start one after another, each a pause after the one before it, and never beyond the limit. Only the last
    of them may answer anything but false. -/
theorem Session.scripted (h : Session what limit (script seq) now n starts result made) (hnow : now = ended seq n) :
    made = n + starts.length ∧ starts = (List.range' n starts.length).map (fun i => ended seq i + interval) ∧
      (∀ t ∈ starts, t ≤ limit) ∧ ∀ i, n ≤ i → i + 1 < made → (seq i).outcome = .ok false := by
  induction h with
  | paused => exact ⟨rfl, rfl, List.forall_mem_nil _, fun i hi hlt => absurd hlt (by omega)⟩
  | @checking now n made found hstart ran late =>
    subst hnow
    cases ran
    exact ⟨rfl, rfl, by simpa using hstart, fun i hi hlt => absurd hlt (by omega)⟩
  | @decided now n made found verdict ran inTime =>
    subst hnow
    cases ran
    exact ⟨rfl, rfl, by simpa using Nat.le_of_add_right_le inTime, fun i hi hlt => absurd hlt (by omega)⟩
  | @again now n n₁ made found starts result ran inTime unmet rest ih =>
    subst hnow
    cases ran
    obtain ⟨hmade, hstarts, hlimit, hfalse⟩ := ih (ended_succ seq n).symm
    refine ⟨by rw [hmade, List.length_cons]; omega, ?_, ?_, fun i hi hlt => ?_⟩
    · rw [List.length_cons, List.range'_succ, List.map_cons, ← hstarts]
    · exact List.forall_mem_cons.mpr ⟨Nat.le_of_add_right_le inTime, hlimit⟩
    · rcases Nat.eq_or_lt_of_le hi with rfl | hi
      · exact unmet
      · exact hfalse i hi hlt

theorem decides_unique {i j : Nat} (hi : Decides seq i) (hj : Decides seq j) : i = j := by
  rcases Nat.lt_trichotomy i j with h | h | h
  · exact absurd (hj.1 i h) hi.2
  · exact h
  · exact absurd (hi.1 j h) hj.2

theorem decides_of_verdict {i : Nat} {verdict : Except PollError Unit}
    (hbefore : ∀ j, 0 ≤ j → j < i → (seq j).outcome = .ok false) (hverdict : (seq i).verdict? what = some verdict) :
    Decides seq i := by
  refine ⟨fun j hj => hbefore j (Nat.zero_le j) hj, fun hfalse => ?_⟩
  cases (Check.verdict?_eq_none.mpr hfalse).symm.trans hverdict

/-- Polling returns, whatever the checks answer and however long they take. The first check that does not answer false
    decides if it ends within the limit; if none does, the polling ends at the limit. No check starts before the first
    pause is over or beyond the limit, and none follows one that does not answer false. -/
theorem polls_exactly (what : String) (limit : Nat) (seq : Nat → Check) :
    ∃ result time starts made, untilHolds what limit (script seq) 0 = ((result, time), made) ∧
      Session what limit (script seq) 0 0 starts (result, time) made ∧
      (∀ i, Decides seq i → ended seq (i + 1) ≤ limit →
        ((seq i).outcome = .ok true → result = .ok () ∧ time = ended seq (i + 1)) ∧
          ∀ cause, (seq i).outcome = .error cause → result = .error (.check what cause) ∧ time = ended seq (i + 1)) ∧
      ((¬∃ i, Decides seq i ∧ ended seq (i + 1) ≤ limit) → result = .error (.timeout what limit) ∧ time = limit) ∧
      starts = (List.range made).map (fun i => ended seq i + interval) ∧ (∀ t ∈ starts, 0 < t ∧ t ≤ limit) ∧
        ∀ i, i + 1 < made → (seq i).outcome = .ok false := by
  obtain ⟨starts, session⟩ := untilHolds_session what limit (script seq) 0
  rcases hpolled : untilHolds what limit (script seq) 0 with ⟨⟨result, time⟩, made⟩
  rw [hpolled] at session
  obtain ⟨hmade, hstarts, hlimit, hfalse⟩ := session.scripted rfl
  rw [Nat.zero_add] at hmade
  rw [← hmade, ← List.range_eq_range'] at hstarts
  refine ⟨result, time, starts, made, rfl, session, fun i hi hended => ?_, fun hnone => ?_, hstarts, fun t ht => ?_,
    fun i => hfalse i (Nat.zero_le i)⟩
  · rcases session.concludes rfl with ⟨j, verdict, hbefore, -, hverdict, heq⟩ | ⟨hnot, -⟩
    · have hj : Decides seq j := decides_of_verdict hbefore hverdict
      obtain rfl := decides_unique hj hi
      cases heq
      refine ⟨fun htrue => ?_, fun cause hcause => ?_⟩
      · simp only [Check.verdict?, htrue, Option.some.injEq] at hverdict
        exact ⟨hverdict.symm, rfl⟩
      · simp only [Check.verdict?, hcause, Option.some.injEq] at hverdict
        exact ⟨hverdict.symm, rfl⟩
    · exact absurd (hnot i (Nat.zero_le i) hended) hi.2
  · rcases session.concludes rfl with ⟨j, verdict, hbefore, hended, hverdict, -⟩ | ⟨-, heq⟩
    · exact absurd ⟨j, decides_of_verdict hbefore hverdict, hended⟩ hnone
    · exact Prod.mk.inj heq
  · refine ⟨?_, hlimit t ht⟩
    rw [hstarts] at ht
    obtain ⟨i, -, rfl⟩ := List.mem_map.mp ht
    exact Nat.lt_add_left _ (by decide)

/-- The third check holds. -/
example : untilHolds "ready" defaultLimit (script fun i => ⟨.ok (i == 2), 0⟩) 0 = ((.ok (), 6000), 3) := rfl

/-- A check that ends at the limit counts. -/
example : untilHolds "ready" 2500 (script fun _ => ⟨.ok true, 500⟩) 0 = ((.ok (), 2500), 1) := rfl

end PlatformOperator.Poll
