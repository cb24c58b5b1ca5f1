import PlatformOperator.Proofs.Condition.Order
import PlatformOperator.Proofs.Condition.Set

/-! Runs of a manager: what is asked of it from its start on, one operation after the other. No operation
    changes which type is the happy one or which types it depends on. -/

namespace PlatformOperator

namespace Manager

inductive Operation where
  | set (c : Condition)
  | clear (t : String)
  | mark (t : String) (status : ConditionStatus) (d : ConditionDetails)
  | markFrom (t : String) (source : Condition)
  | recompute (changed : String)
  | sort
  | reset
  deriving DecidableEq, Repr

namespace Operation

def run (m : Manager) : Operation → StateM Clock Manager
  | set c => m.set c
  | clear t => m.clear t
  | mark t status d => m.mark t status d
  | markFrom t source => m.markFrom t source
  | recompute changed => m.recompute changed
  | sort => pure m.sort
  | reset => m.reset

/-- The type that an operation sets, marks or clears. -/
def target? : Operation → Option String
  | set c => some c.type
  | clear t => some t
  | mark t _ _ => some t
  | markFrom t _ => some t
  | recompute _ => none
  | sort => none
  | reset => none

/-- Whatever has a target sets a condition of that type or clears the type. -/
theorem run_of_target {op : Operation} {t : String} (h : op.target? = some t) :
    (∃ c : Condition, c.type = t ∧ ∀ m, op.run m = m.set c) ∨ ∀ m, op.run m = m.clear t := by
  cases op with
  | set c =>
    cases h
    exact Or.inl ⟨c, rfl, fun _ => rfl⟩
  | clear t =>
    cases h
    exact Or.inr fun _ => rfl
  | mark t status d =>
    cases h
    exact Or.inl ⟨_, rfl, fun _ => rfl⟩
  | markFrom t source =>
    cases h
    exact Or.inl ⟨_, rfl, fun _ => rfl⟩
  | recompute changed => cases h
  | sort => cases h
  | reset => cases h

end Operation

/-- The manager after a list of operations. Time may pass between them: each comes with its own clock. -/
def after (m : Manager) (ops : List (Clock × Operation)) : Manager :=
  ops.foldl (fun m op => (op.2.run m op.1).1) m

/-- The same happy type and the same dependents. -/
def SameTypes (m m' : Manager) : Prop := m'.happy = m.happy ∧ m'.dependents = m.dependents

section
variable {m m' m'' : Manager} {c : Condition} {clock : Clock} {t : String} {status : ConditionStatus} {ts : List String}

theorem SameTypes.trans (h : SameTypes m m') (h' : SameTypes m' m'') : SameTypes m m'' :=
  ⟨h'.1.trans h.1, h'.2.trans h.2⟩

theorem sameTypes_set (c : Condition) (m : Manager) (clock : Clock) : SameTypes m (m.set c clock).1 := by
  rw [set_fst]
  split
  · exact ⟨aligned_happy, aligned_dependents⟩
  · exact ⟨rfl, rfl⟩

theorem sameTypes_recompute (t : String) (m : Manager) (clock : Clock) : SameTypes m (m.recompute t clock).1 := by
  rw [recompute_fst]
  exact ⟨aligned_happy, aligned_dependents⟩

theorem sameTypes_clear (t : String) (m : Manager) (clock : Clock) : SameTypes m (m.clear t clock).1 := by
  unfold clear
  split
  · exact ⟨rfl, rfl⟩
  · exact sameTypes_recompute t { m with conditions := m.conditions.filter (·.type != t) } clock

theorem addMissing_cons : m.addMissing status (t :: ts) clock =
    if (m.condition? t).isSome then m.addMissing status ts clock
    else (m.set { type := t, status } clock).1.addMissing status ts (m.set { type := t, status } clock).2 := by
  rw [addMissing]
  split <;> rfl

theorem sameTypes_addMissing (status : ConditionStatus) (ts : List String) (m : Manager) (clock : Clock) :
    SameTypes m (m.addMissing status ts clock).1 := by
  induction ts generalizing m clock with
  | nil => exact ⟨rfl, rfl⟩
  | cons t ts ih =>
    rw [addMissing_cons]
    split
    · exact ih m clock
    · exact (sameTypes_set _ m clock).trans (ih _ _)

theorem sameTypes_complete (m : Manager) (clock : Clock) : SameTypes m (m.complete clock).1 := by
  unfold complete
  cases m.top? with
  | some top => exact sameTypes_addMissing _ _ m clock
  | none => exact (sameTypes_set _ m clock).trans (sameTypes_addMissing _ _ _ _)

/-- The manager with the conditions that a reset keeps. -/
def trimmed (m : Manager) : Manager :=
  { m with conditions := m.conditions.filter fun c => c.type == m.happy || m.dependents.contains c.type }

theorem reset_eq (m : Manager) : m.reset = m.trimmed.complete := rfl

theorem sameTypes_reset (m : Manager) (clock : Clock) : SameTypes m (m.reset clock).1 := by
  rw [reset_eq]
  exact sameTypes_complete m.trimmed clock

theorem sameTypes_run (op : Operation) (m : Manager) (clock : Clock) : SameTypes m (op.run m clock).1 := by
  cases op with
  | set c => exact sameTypes_set c m clock
  | clear t => exact sameTypes_clear t m clock
  | mark t status d => exact sameTypes_set _ m clock
  | markFrom t source => exact sameTypes_set _ m clock
  | recompute changed => exact sameTypes_recompute changed m clock
  | sort => exact ⟨rfl, rfl⟩
  | reset => exact sameTypes_reset m clock

theorem sameTypes_after (ops : List (Clock × Operation)) (m : Manager) : SameTypes m (m.after ops) := by
  induction ops generalizing m with
  | nil => exact ⟨rfl, rfl⟩
  | cons op ops ih => exact (sameTypes_run op.2 m op.1).trans (ih _)

/-! ### The start -/

/-- The happy type counts as no dependent of its own. -/
theorem types_after_start (cs : List Condition) (happy : String) (declared : List String) (clock : Clock)
    (ops : List (Clock × Operation)) :
    ((start cs happy declared clock).1.after ops).happy = happy ∧
      ∀ t, t ∈ ((start cs happy declared clock).1.after ops).dependents ↔ t ∈ declared ∧ t ≠ happy := by
  obtain ⟨hhappy, hdeps⟩ := sameTypes_after ops (start cs happy declared clock).1
  obtain ⟨hhappy₀, hdeps₀⟩ : (start cs happy declared clock).1.happy = happy ∧
      (start cs happy declared clock).1.dependents = (declared.filter (· != happy)).eraseDups :=
    sameTypes_complete _ clock
  refine ⟨hhappy.trans hhappy₀, fun t => ?_⟩
  rw [hdeps, hdeps₀, List.mem_eraseDups, List.mem_filter, bne_iff_ne]

/-! ### The other conditions -/

theorem others_set (c : Condition) (m : Manager) (clock : Clock) :
    (m.set c clock).1.others = (m.store c clock.next).2.others := by
  rw [set_fst]
  split
  · exact aligned_others
  · rename_i hunchanged
    rw [store_snd_of_fst (by simpa using hunchanged)]

theorem others_clear_happy (m : Manager) (clock : Clock) : (m.clear m.happy clock).1.others = m.others := by
  unfold clear
  split
  · rfl
  · rw [recompute_fst, aligned_others]
    unfold others
    rw [List.filter_filter]
    simp only [Bool.and_self]

/-- An operation on the happy condition leaves the other ones alone. -/
theorem others_run {op : Operation} (h : op.target? = some m.happy) (clock : Clock) :
    (op.run m clock).1.others = m.others := by
  rcases Operation.run_of_target h with ⟨c, hc, hrun⟩ | hrun
  · rw [hrun, others_set, store_others hc]
  · rw [hrun, others_clear_happy]

end

end Manager

end PlatformOperator
