import PlatformOperator.Proofs.Condition.Timely

/-! Where transition times come from: after any operation, each condition has status and time of one that was there
    before, or a time that was supplied for its type or read from the clock meanwhile. -/

namespace PlatformOperator

/-- The time is one that the clock showed on its way from `clock` to `clock'`. -/
def Clock.Reads (clock clock' : Clock) (time : Timestamp) : Prop :=
  ∃ n, clock.readings ≤ n ∧ n < clock'.readings ∧ time = (Clock.mk n).next

theorem Clock.Reads.mono {clock clock' before after : Clock} {time : Timestamp} (h : clock.Reads clock' time)
    (hbefore : before.readings ≤ clock.readings) (hafter : clock'.readings ≤ after.readings) :
    before.Reads after time := by
  obtain ⟨n, hle, hlt, htime⟩ := h
  exact ⟨n, Nat.le_trans hbefore hle, Nat.lt_of_lt_of_le hlt hafter, htime⟩

namespace Manager

/-! ### Operations -/

namespace Operation

/-- The type and the status that an operation asks for. -/
def asks? : Operation → Option (String × ConditionStatus)
  | set c => some (c.type, c.status)
  | mark t status _ => some (t, status)
  | markFrom t source => some (t, source.status)
  | _ => none

/-- The operation comes with a transition time for the type. -/
def Supplies (op : Operation) (t : String) (time : Timestamp) : Prop :=
  ∃ c, op = .set c ∧ c.type = t ∧ c.lastTransitionTime = some time

theorem run_cases (op : Operation) :
    (∃ c : Condition, op.asks? = some (c.type, c.status) ∧ (∀ m, op.run m = m.set c) ∧
      ∀ time, c.lastTransitionTime = some time → op.Supplies c.type time) ∨
    (∃ t, op = .clear t) ∨ (∃ t, op = .recompute t) ∨ op = .sort ∨ op = .reset := by
  cases op with
  | set c => exact .inl ⟨c, rfl, fun _ => rfl, fun time htime => ⟨c, rfl, rfl, htime⟩⟩
  | mark t status d => exact .inl ⟨_, rfl, fun _ => rfl, fun _ htime => by cases htime⟩
  | markFrom t source => exact .inl ⟨_, rfl, fun _ => rfl, fun _ htime => by cases htime⟩
  | clear t => exact .inr (.inl ⟨t, rfl⟩)
  | recompute t => exact .inr (.inr (.inl ⟨t, rfl⟩))
  | sort => exact .inr (.inr (.inr (.inl rfl)))
  | reset => exact .inr (.inr (.inr (.inr rfl)))

end Operation

variable {m m' : Manager} {c top : Condition} {now : Timestamp} {clock : Clock} {t : String}
  {given : String → Timestamp → Prop} {p q : Manager × Clock}

/-! ### One store -/

theorem storeIn_find?_of_some {cs : List Condition} {old : Condition}
    (h : cs.find? (·.type == c.type) = some old) :
    (storeIn c now cs).2.find? (·.type == c.type) = some (old.update c now).2 := by
  induction cs with
  | nil => cases h
  | cons first cs ih =>
    unfold storeIn
    by_cases htype : first.type = c.type
    · have hfirst : (first :: cs).find? (·.type == c.type) = some first :=
        List.find?_cons_of_pos (beq_iff_eq.mpr htype)
      cases hfirst.symm.trans h
      rw [if_pos htype]
      exact List.find?_cons_of_pos (beq_iff_eq.mpr htype)
    · have hne : ¬(first.type == c.type) = true := by simpa using htype
      have hrest : (first :: cs).find? (·.type == c.type) = cs.find? (·.type == c.type) :=
        List.find?_cons_of_neg hne
      rw [if_neg htype, ← ih (hrest ▸ h)]
      exact List.find?_cons_of_neg hne

theorem store_condition?_of_some {old : Condition} (h : m.condition? c.type = some old) :
    (m.store c now).2.condition? c.type = some (old.update c now).2 :=
  storeIn_find?_of_some h

theorem storeIn_of_find?_none {cs : List Condition} (h : cs.find? (·.type == c.type) = none) :
    (storeIn c now cs).2 = cs ++ [{ c with lastTransitionTime := some (c.lastTransitionTime.getD now) }] := by
  induction cs with
  | nil => rfl
  | cons first cs ih =>
    have hnone := List.find?_eq_none.mp h
    have hrest : cs.find? (·.type == c.type) = none :=
      List.find?_eq_none.mpr fun d hd => hnone d (List.mem_cons_of_mem _ hd)
    unfold storeIn
    rw [if_neg (by simpa using hnone first List.mem_cons_self)]
    exact congrArg (first :: ·) (ih hrest)

theorem store_conditions_of_none (h : m.condition? c.type = none) : (m.store c now).2.conditions =
    m.conditions ++ [{ c with lastTransitionTime := some (c.lastTransitionTime.getD now) }] :=
  storeIn_of_find?_none h

theorem store_condition?_of_none (h : m.condition? c.type = none) : (m.store c now).2.condition? c.type =
    some { c with lastTransitionTime := some (c.lastTransitionTime.getD now) } := by
  have hrest : m.conditions.find? (·.type == c.type) = none := h
  rw [condition?, store_conditions_of_none h, List.find?_append, hrest, Option.none_or]
  exact List.find?_cons_of_pos (beq_self_eq_true c.type)

theorem store_condition?_of_ne (h : t ≠ c.type) : (m.store c now).2.condition? t = m.condition? t := by
  have hfilter : (m.store c now).2.conditions.filter (·.type == t) = m.conditions.filter (·.type == t) :=
    storeIn_filter (p := (· == t)) (beq_false_of_ne h.symm)
  rw [condition?, condition?, ← List.head?_filter, ← List.head?_filter, hfilter]

/-- The condition of a type, where only conditions of some types are left. -/
theorem filter_condition? (p : String → Bool) (cs : List Condition) (t : String) :
    (cs.filter fun c => p c.type).find? (·.type == t) = if p t then cs.find? (·.type == t) else none := by
  rw [List.find?_filter]
  split
  · rename_i hp
    congr 1
    funext c
    by_cases hc : c.type = t <;> simp [hc, hp]
  · rename_i hp
    refine List.find?_eq_none.mpr fun c _ => ?_
    by_cases hc : c.type = t <;> simp [hc, hp]

/-! ### Where times come from -/

/-- The clock does not go back, and each condition has status and time of an earlier one of its type, or a time that
    was given for its type or read meanwhile. -/
structure Traces (given : String → Timestamp → Prop) (m : Manager) (clock : Clock) (p : Manager × Clock) : Prop where
  forward : clock.readings ≤ p.2.readings
  traced : ∀ t d, p.1.condition? t = some d →
    (∃ c, m.condition? t = some c ∧ d.status = c.status ∧ d.lastTransitionTime = c.lastTransitionTime) ∨
      ∃ time, d.lastTransitionTime = some time ∧ (given t time ∨ clock.Reads p.2 time)

theorem Traces.of_condition? (h : ∀ t d, m'.condition? t = some d → m.condition? t = some d) :
    Traces given m clock (m', clock) :=
  ⟨Nat.le_refl _, fun t d hd => .inl ⟨d, h t d hd, rfl, rfl⟩⟩

theorem Traces.refl (m : Manager) (clock : Clock) : Traces given m clock (m, clock) := .of_condition? fun _ _ hd => hd

theorem Traces.trans (h : Traces given m clock p) (h' : Traces given p.1 p.2 q) : Traces given m clock q := by
  refine ⟨Nat.le_trans h.forward h'.forward, fun t e he => ?_⟩
  rcases h'.traced t e he with ⟨d, hd, hstatus, htime⟩ | ⟨time, htime, hgiven | hread⟩
  · rcases h.traced t d hd with ⟨c, hc, hstatus', htime'⟩ | ⟨time, htime', hgiven | hread⟩
    · exact .inl ⟨c, hc, hstatus.trans hstatus', htime.trans htime'⟩
    · exact .inr ⟨time, htime.trans htime', .inl hgiven⟩
    · exact .inr ⟨time, htime.trans htime', .inr (hread.mono (Nat.le_refl _) h'.forward)⟩
  · exact .inr ⟨time, htime, .inl hgiven⟩
  · exact .inr ⟨time, htime, .inr (hread.mono h.forward (Nat.le_refl _))⟩

theorem store_traces (hc : ∀ time, c.lastTransitionTime = some time → given c.type time) (m : Manager) (clock : Clock) :
    Traces given m clock ((m.store c clock.next).2, clock.tick) := by
  refine ⟨Nat.le_succ _, fun t d hd => ?_⟩
  dsimp only at hd
  have hnew {time : Option Timestamp} (htime : time = some (c.lastTransitionTime.getD clock.next)) :
      ∃ stamp, time = some stamp ∧ (given c.type stamp ∨ clock.Reads clock.tick stamp) := by
    refine ⟨_, htime, ?_⟩
    cases hsupplied : c.lastTransitionTime with
    | some time => exact .inl (hc time hsupplied)
    | none => exact .inr ⟨clock.readings, Nat.le_refl _, Nat.lt_succ_self _, rfl⟩
  by_cases ht : t = c.type
  · subst ht
    cases hold : m.condition? c.type with
    | none =>
      cases (store_condition?_of_none hold).symm.trans hd
      exact .inr (hnew rfl)
    | some old =>
      cases (store_condition?_of_some hold).symm.trans hd
      by_cases hstatus : old.status = c.status
      · exact .inl ⟨old, rfl, hstatus.symm, if_pos hstatus⟩
      · exact .inr (hnew (if_neg hstatus))
  · rw [store_condition?_of_ne ht] at hd
    exact .inl ⟨d, hd, rfl, rfl⟩

theorem entailed?_untimed {P : Timestamp → Prop} (h : m.entailed? t = some top) (time : Timestamp)
    (htime : top.lastTransitionTime = some time) : P time := by
  cases (entailed?_unstamped h).transition.symm.trans htime

theorem setWithin_traces {depth : Nat} (hc : ∀ time, c.lastTransitionTime = some time → given c.type time)
    (h : setWithin depth c m clock = some p) : Traces given m clock p := by
  induction depth generalizing c m clock with
  | zero => cases h
  | succ depth ih =>
    have hstored := store_traces hc m clock
    unfold setWithin at h
    dsimp only at h
    split at h
    · cases h
      exact hstored
    · rename_i top htop
      have hentailed : (m.store c clock.next).2.entailed? c.type = some top := by
        split at htop
        · exact htop
        · cases htop
      exact hstored.trans (ih (entailed?_untimed hentailed) h)

theorem set_traces (hc : ∀ time, c.lastTransitionTime = some time → given c.type time) (m : Manager) (clock : Clock) :
    Traces given m clock (m.set c clock) := by
  unfold set
  cases h : setWithin 3 c m clock with
  | none => exact .refl m clock
  | some p => exact setWithin_traces hc h

theorem recompute_traces (t : String) (m : Manager) (clock : Clock) : Traces given m clock (m.recompute t clock) := by
  unfold recompute
  cases h : m.entailed? t with
  | none => exact .refl m clock
  | some top => exact set_traces (entailed?_untimed h) m clock

theorem clear_traces (t : String) (m : Manager) (clock : Clock) : Traces given m clock (m.clear t clock) := by
  unfold clear
  split
  · exact .refl m clock
  · have hkept : Traces given m clock ({ m with conditions := m.conditions.filter (·.type != t) }, clock) := by
      refine .of_condition? fun u d hd => ?_
      rw [condition?, filter_condition? (· != t)] at hd
      split at hd
      · exact hd
      · cases hd
    exact hkept.trans (recompute_traces t _ clock)

theorem addMissing_traces (status : ConditionStatus) (ts : List String) (m : Manager) (clock : Clock) :
    Traces given m clock (m.addMissing status ts clock) := by
  induction ts generalizing m clock with
  | nil => exact .refl m clock
  | cons t ts ih =>
    rw [addMissing_cons]
    split
    · exact ih m clock
    · exact (set_traces (fun _ htime => by cases htime) m clock).trans (ih _ _)

theorem complete_traces (m : Manager) (clock : Clock) : Traces given m clock (m.complete clock) := by
  unfold complete
  cases m.top? with
  | some top => exact addMissing_traces _ _ m clock
  | none => exact (set_traces (fun _ htime => by cases htime) m clock).trans (addMissing_traces _ _ _ _)

theorem trimmed_condition? (m : Manager) (t : String) :
    m.trimmed.condition? t = if t == m.happy || m.dependents.contains t then m.condition? t else none :=
  filter_condition? (fun t => t == m.happy || m.dependents.contains t) m.conditions t

theorem reset_traces (m : Manager) (clock : Clock) : Traces given m clock (m.reset clock) := by
  have htrimmed : Traces given m clock (m.trimmed, clock) := by
    refine .of_condition? fun t d hd => ?_
    rw [trimmed_condition?] at hd
    split at hd
    · exact hd
    · cases hd
  rw [reset_eq]
  exact htrimmed.trans (complete_traces m.trimmed clock)

/-- Whatever the operation, a time that is not the earlier one was supplied or read. -/
theorem run_traces (op : Operation) (m : Manager) (clock : Clock) : Traces op.Supplies m clock (op.run m clock) := by
  obtain ⟨c, -, hrun, hsupplied⟩ | ⟨t, rfl⟩ | ⟨t, rfl⟩ | rfl | rfl := op.run_cases
  · rw [hrun]
    exact set_traces hsupplied m clock
  · exact clear_traces t m clock
  · exact recompute_traces t m clock
  · exact .of_condition? fun t d hd => (sort_condition? m t).symm.trans hd
  · exact reset_traces m clock

end Manager
end PlatformOperator
