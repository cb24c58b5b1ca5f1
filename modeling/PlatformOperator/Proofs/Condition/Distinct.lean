import Mathlib.Data.List.Nodup
import PlatformOperator.Proofs.Condition.Operation

/-! Conditions of pairwise distinct types stay distinct, whatever is asked of their manager: a store puts a
    condition in the place of its type, and nothing else adds one. -/

namespace PlatformOperator

namespace Manager
variable {m : Manager} {c : Condition} {now : Timestamp} {clock : Clock} {t : String} {ts : List String}
  {cs : List Condition}

theorem storeIn_types : (storeIn c now cs).2.map (·.type) =
    if c.type ∈ cs.map (·.type) then cs.map (·.type) else cs.map (·.type) ++ [c.type] := by
  induction cs with
  | nil => simp [storeIn]
  | cons old cs ih =>
    unfold storeIn
    by_cases htype : old.type = c.type
    · rw [if_pos htype]
      simp [Condition.update, htype]
    · rw [if_neg htype]
      show old.type :: (storeIn c now cs).2.map (·.type) = _
      rw [ih]
      by_cases hmem : c.type ∈ cs.map (·.type)
      · rw [if_pos hmem, List.map_cons, if_pos (List.mem_cons_of_mem _ hmem)]
      · have hnot : c.type ∉ (old :: cs).map (·.type) := by
          rw [List.map_cons, List.mem_cons, not_or]
          exact ⟨Ne.symm htype, hmem⟩
        rw [if_neg hmem, if_neg hnot]
        rfl

/-- A type that is put behind the others unless it is there is there once. -/
theorem nodup_put {ts : List String} (h : ts.Nodup) (t : String) : (if t ∈ ts then ts else ts ++ [t]).Nodup := by
  split
  · exact h
  · rename_i hnew
    refine List.nodup_append.mpr ⟨h, List.nodup_singleton _, ?_⟩
    intro a ha b hb hab
    rw [hab, List.mem_singleton.mp hb] at ha
    exact hnew ha

/-- No two conditions are of one type. -/
def Distinct (m : Manager) : Prop := (m.conditions.map (·.type)).Nodup

theorem Distinct.store (h : m.Distinct) (c : Condition) (now : Timestamp) : (m.store c now).2.Distinct := by
  show ((storeIn c now m.conditions).2.map (·.type)).Nodup
  rw [storeIn_types]
  exact nodup_put h c.type

theorem Distinct.aligned (h : m.Distinct) (t : String) (now : Timestamp) : (m.aligned t now).Distinct := by
  unfold Manager.aligned
  split
  · exact h
  · exact h.store _ now

theorem Distinct.set (h : m.Distinct) (c : Condition) (clock : Clock) : (m.set c clock).1.Distinct := by
  rw [set_fst]
  split
  · exact (h.store c clock.next).aligned c.type _
  · exact h

theorem Distinct.recompute (h : m.Distinct) (t : String) (clock : Clock) : (m.recompute t clock).1.Distinct := by
  rw [recompute_fst]
  exact h.aligned t _

theorem Distinct.filter (h : m.Distinct) (p : Condition → Bool) :
    Distinct { m with conditions := m.conditions.filter p } :=
  h.sublist (List.filter_sublist.map _)

theorem Distinct.clear (h : m.Distinct) (t : String) (clock : Clock) : (m.clear t clock).1.Distinct := by
  unfold Manager.clear
  split
  · exact h
  · exact (h.filter _).recompute t clock

theorem Distinct.addMissing (h : m.Distinct) (status : ConditionStatus) (ts : List String) (clock : Clock) :
    (m.addMissing status ts clock).1.Distinct := by
  induction ts generalizing m clock with
  | nil => exact h
  | cons t ts ih =>
    rw [addMissing_cons]
    split
    · exact ih h clock
    · exact ih (h.set _ clock) _

theorem Distinct.complete (h : m.Distinct) (clock : Clock) : (m.complete clock).1.Distinct := by
  unfold Manager.complete
  cases m.top? with
  | some top => exact h.addMissing _ _ clock
  | none => exact (h.set _ clock).addMissing _ _ _

theorem Distinct.start (h : (cs.map (·.type)).Nodup) (happy : String) (declared : List String) (clock : Clock) :
    (start cs happy declared clock).1.Distinct :=
  Distinct.complete (m := ⟨happy, _, cs, _⟩) h clock

theorem Distinct.reset (h : m.Distinct) (clock : Clock) : (m.reset clock).1.Distinct := by
  rw [reset_eq]
  exact (h.filter _).complete clock

theorem Distinct.sort (h : m.Distinct) : m.sort.Distinct := (m.sort_perm.map _).nodup_iff.mpr h

theorem Distinct.run (h : m.Distinct) (op : Operation) (clock : Clock) : (op.run m clock).1.Distinct := by
  cases op with
  | set c => exact h.set c clock
  | clear t => exact h.clear t clock
  | mark t status d => exact h.set _ clock
  | markFrom t source => exact h.set _ clock
  | recompute changed => exact h.recompute changed clock
  | sort => exact h.sort
  | reset => exact h.reset clock

theorem Distinct.after (h : m.Distinct) (ops : List (Clock × Operation)) : (m.after ops).Distinct := by
  induction ops generalizing m with
  | nil => exact h
  | cons op ops ih => exact ih (h.run op.2 op.1)

/-- Where types are distinct, the first condition of a type is any one of it. -/
theorem find?_eq_some_of_nodup (h : (cs.map (·.type)).Nodup) :
    cs.find? (·.type == t) = some c ↔ c ∈ cs ∧ c.type = t := by
  have found {d : Condition} (hd : cs.find? (·.type == t) = some d) : d ∈ cs ∧ d.type = t :=
    ⟨List.mem_of_find?_eq_some hd, by simpa using List.find?_some hd⟩
  refine ⟨found, ?_⟩
  rintro ⟨hmem, rfl⟩
  cases hd : cs.find? (·.type == c.type) with
  | none => exact absurd (beq_self_eq_true c.type) (List.find?_eq_none.mp hd c hmem)
  | some d =>
    obtain ⟨hdmem, htype⟩ := found hd
    rw [List.inj_on_of_nodup_map h hdmem hmem htype]

theorem Distinct.condition?_eq_some (h : m.Distinct) :
    m.condition? t = some c ↔ c ∈ m.conditions ∧ c.type = t :=
  find?_eq_some_of_nodup h

end Manager

end PlatformOperator
