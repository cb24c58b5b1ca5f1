import PlatformOperator.Proofs.Condition.Settled

/-! How far a set condition reaches. The happy condition that it entails is set in turn, and that entails one again, but
    three settings nested in one another are always enough: no condition that bears on the happy one is changed on the
    way. Two conditions change at most, in their places or at the end. -/

namespace PlatformOperator

namespace Manager
variable {m m' : Manager} {c top : Condition} {now : Timestamp} {clock : Clock} {t : String} {ts us : List String}
  {cs cs' cs'' : List Condition} {depth n n' : Nat} {p p' : Manager × Clock}

/-! ### Nested settings -/

/-- Setting `c` leaves `p` behind, with `n` settings nested in one another, that of `c` included. Their number has no
    limit. -/
inductive Sets : Nat → Condition → Manager → Clock → Manager × Clock → Prop
  /-- Nothing but times changed. -/
  | kept {c : Condition} {m : Manager} {clock : Clock} (unchanged : (m.store c clock.next).1 = false) :
    Sets 1 c m clock ((m.store c clock.next).2, clock.tick)
  /-- Something changed that asks for nothing of the happy condition. -/
  | content {c : Condition} {m : Manager} {clock : Clock} (changed : (m.store c clock.next).1 = true)
    (nothing : (m.store c clock.next).2.entailed? c.type = none) :
    Sets 1 c m clock ((m.store c clock.next).2, clock.tick)
  /-- Something changed, and the happy condition that this entails is set. -/
  | entails {c top : Condition} {m : Manager} {clock : Clock} {n : Nat} {p : Manager × Clock}
    (changed : (m.store c clock.next).1 = true) (entailed : (m.store c clock.next).2.entailed? c.type = some top)
    (nested : Sets n top (m.store c clock.next).2 clock.tick p) : Sets (n + 1) c m clock p

theorem Sets.unique (h : Sets n c m clock p) (h' : Sets n' c m clock p') : n' = n ∧ p' = p := by
  induction h generalizing n' with
  | kept unchanged =>
    cases h' with
    | kept => exact ⟨rfl, rfl⟩
    | content changed => cases unchanged.symm.trans changed
    | entails changed => cases unchanged.symm.trans changed
  | content changed nothing =>
    cases h' with
    | kept unchanged => cases unchanged.symm.trans changed
    | content => exact ⟨rfl, rfl⟩
    | entails _ entailed => cases nothing.symm.trans entailed
  | entails changed entailed _ ih =>
    cases h' with
    | kept unchanged => cases unchanged.symm.trans changed
    | content _ nothing => cases nothing.symm.trans entailed
    | entails _ entailed' nested =>
      cases entailed.symm.trans entailed'
      obtain ⟨rfl, rfl⟩ := ih nested
      exact ⟨rfl, rfl⟩

theorem sets_of_setWithin (h : setWithin depth c m clock = some p) : ∃ n ≤ depth, Sets n c m clock p := by
  induction depth generalizing c m clock with
  | zero => cases h
  | succ depth ih =>
    unfold setWithin at h
    dsimp only at h
    cases hchanged : (m.store c clock.next).1 with
    | false =>
      rw [hchanged] at h
      cases h
      exact ⟨1, Nat.le_add_left 1 depth, .kept hchanged⟩
    | true =>
      rw [hchanged, if_pos rfl] at h
      cases hentailed : (m.store c clock.next).2.entailed? c.type with
      | none =>
        rw [hentailed] at h
        cases h
        exact ⟨1, Nat.le_add_left 1 depth, .content hchanged hentailed⟩
      | some top =>
        rw [hentailed] at h
        obtain ⟨n, hn, nested⟩ := ih h
        exact ⟨n + 1, Nat.succ_le_succ hn, .entails hchanged hentailed nested⟩

/-- To set a condition takes three nested settings at most. -/
theorem sets_set (c : Condition) (m : Manager) (clock : Clock) : ∃ n ≤ 3, Sets n c m clock (m.set c clock) := by
  obtain ⟨clock', hset⟩ := setWithin_eq c m clock
  have hwithin : setWithin 3 c m clock = some (m.set c clock) := by
    unfold set
    rw [hset]
    rfl
  exact sets_of_setWithin hwithin

/-! ### Places -/

/-- `cs'` are the conditions `cs` in their places, where only the first one of each type in `ts` may have changed, and
    behind them one condition at most of each type in `ts` that was missing. -/
structure Touches (ts : List String) (cs cs' : List Condition) : Prop where
  types : ∃ added, cs'.map (·.type) = cs.map (·.type) ++ added ∧ added.Nodup ∧
    ∀ t ∈ added, t ∈ ts ∧ t ∉ cs.map (·.type)
  kept : ∀ i < cs.length, (∀ t ∈ ts, i ≠ (cs.map (·.type)).idxOf t) → cs'[i]? = cs[i]?

theorem Touches.refl (ts : List String) (cs : List Condition) : Touches ts cs cs where
  types := ⟨[], (List.append_nil _).symm, List.nodup_nil, List.forall_mem_nil _⟩
  kept := fun _ _ _ => rfl

theorem Touches.trans (h : Touches ts cs cs') (h' : Touches us cs' cs'') : Touches (ts ++ us) cs cs'' := by
  obtain ⟨added, htypes, honce, hadded⟩ := h.types
  obtain ⟨added', htypes', honce', hadded'⟩ := h'.types
  refine ⟨⟨added ++ added', ?_, ?_, ?_⟩, fun i hi hne => ?_⟩
  · rw [htypes', htypes, List.append_assoc]
  · refine List.nodup_append.mpr ⟨honce, honce', fun t ht u hu htu => ?_⟩
    exact (hadded' u hu).2 (htypes ▸ List.mem_append_right _ (htu ▸ ht))
  · intro t ht
    rcases List.mem_append.mp ht with ht | ht
    · exact ⟨List.mem_append_left us (hadded t ht).1, (hadded t ht).2⟩
    · obtain ⟨hmem, hnew⟩ := hadded' t ht
      exact ⟨List.mem_append_right ts hmem, fun hold => hnew (htypes ▸ List.mem_append_left added hold)⟩
  · have hlength : cs'.length = cs.length + added.length := by
      simpa using congrArg List.length htypes
    have hfirst : ∀ u ∈ us, i ≠ (cs'.map (·.type)).idxOf u := by
      intro u hu
      rw [htypes]
      by_cases hmem : u ∈ cs.map (·.type)
      · rw [List.idxOf_append_of_mem hmem]
        exact hne u (List.mem_append_right ts hu)
      -- What was added stands behind all that was there.
      · rw [List.idxOf_append_of_notMem hmem, List.length_map]
        exact Nat.ne_of_lt (Nat.lt_add_right _ hi)
    rw [h'.kept i (hlength ▸ Nat.lt_add_right _ hi) hfirst]
    exact h.kept i hi fun t ht => hne t (List.mem_append_left us ht)

theorem storeIn_touches (c : Condition) (now : Timestamp) (cs : List Condition) :
    Touches [c.type] cs (storeIn c now cs).2 := by
  refine ⟨?_, ?_⟩
  · rw [storeIn_types]
    split
    · exact ⟨[], (List.append_nil _).symm, List.nodup_nil, List.forall_mem_nil _⟩
    · rename_i hnew
      refine ⟨[c.type], rfl, List.nodup_singleton _, fun t ht => ⟨ht, ?_⟩⟩
      rwa [List.mem_singleton.mp ht]
  · induction cs with
    | nil => exact fun i hi => absurd hi (Nat.not_lt_zero i)
    | cons old cs ih =>
      intro i hi hne
      have hne : i ≠ (old.type :: cs.map (·.type)).idxOf c.type := hne c.type List.mem_cons_self
      unfold storeIn
      by_cases htype : old.type = c.type
      · rw [List.idxOf_cons_eq _ htype] at hne
        obtain ⟨j, rfl⟩ := Nat.exists_eq_succ_of_ne_zero hne
        rw [if_pos htype]
        rfl
      · rw [List.idxOf_cons_ne _ htype] at hne
        rw [if_neg htype]
        cases i with
        | zero => rfl
        | succ i =>
          refine ih i (Nat.lt_of_succ_lt_succ hi) fun t ht => ?_
          rw [List.mem_singleton.mp ht]
          exact fun heq => hne (congrArg Nat.succ heq)

theorem aligned_touches (m : Manager) (changed : String) (now : Timestamp) :
    Touches [m.happy] m.conditions (m.aligned changed now).conditions := by
  unfold aligned
  split
  · exact .refl _ _
  · rename_i top htop
    exact entailed?_type htop ▸ storeIn_touches top now m.conditions

theorem set_touches (c : Condition) (m : Manager) (clock : Clock) :
    Touches [c.type, m.happy] m.conditions (m.set c clock).1.conditions := by
  rw [set_fst]
  split
  · exact (storeIn_touches c clock.next m.conditions).trans (aligned_touches (m.store c clock.next).2 c.type _)
  · exact .refl _ _

/-- To set a condition ends, after three nested settings at most, in what `set` gives. Of the conditions there only the
    first one of its type and the first happy one may have changed, and these two are all that may be added; so types
    stay distinct. A condition that differs from the stored one in times only changes nothing. -/
theorem set_reaches (c : Condition) (m : Manager) (clock : Clock) :
    (∃ n ≤ 3, ∀ n' p, Sets n' c m clock p ↔ n' = n ∧ p = m.set c clock) ∧
    SameTypes m (m.set c clock).1 ∧
    Touches [c.type, m.happy] m.conditions (m.set c clock).1.conditions ∧
    (m.Distinct → (m.set c clock).1.Distinct) ∧
    ∀ d, m.condition? c.type = some d → d.timeless = c.timeless → (m.set c clock).1 = m := by
  refine ⟨?_, sameTypes_set c m clock, set_touches c m clock, fun h => h.set c clock, fun d hd hsame => ?_⟩
  · obtain ⟨n, hn, hsets⟩ := sets_set c m clock
    refine ⟨n, hn, fun n' p => ⟨hsets.unique, ?_⟩⟩
    rintro ⟨rfl, rfl⟩
    exact hsets
  · exact Stands.set_eq ⟨d, hd, hsame⟩ clock

namespace Sample

/-- The happy condition and its dependent are True. -/
def working : Manager where
  happy := "Ready"
  dependents := ["Database"]
  conditions := [{ type := "Ready", status := .true }, { type := "Database", status := .true }]
  happy_not_mem := by decide

def crashed : Condition := { type := "Database", status := .false, reason := some "Crashed" }

def seen : Condition := { type := "Database", status := .true, lastHeartbeatTime := some ⟨10, 0⟩ }

end Sample

open Sample in
theorem set_reaches_sample :
    working.Distinct ∧ (working.set crashed ⟨0⟩).1.Distinct ∧
      working.condition? "Database" = some { type := "Database", status := .true } ∧
      (working.set seen ⟨0⟩).1 = working := by
  have hdistinct : working.Distinct := by
    unfold Distinct
    decide
  have hstored : working.condition? "Database" = some { type := "Database", status := .true } := by decide
  obtain ⟨-, -, -, hkeeps, -⟩ := set_reaches crashed working ⟨0⟩
  obtain ⟨-, -, -, -, hsame⟩ := set_reaches seen working ⟨0⟩
  exact ⟨hdistinct, hkeeps hdistinct, hstored, hsame _ hstored rfl⟩

open Sample in
/-- The happy condition follows the dependent that crashed and is then found in line. -/
example : setWithin 2 crashed working ⟨0⟩ = none ∧ (setWithin 3 crashed working ⟨0⟩).isSome = true := by
  decide +kernel

end Manager
end PlatformOperator
