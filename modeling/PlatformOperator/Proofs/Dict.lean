import Mathlib.Data.List.Nodup
import Mathlib.Data.String.Basic
import PlatformOperator.Dict

/-! Dictionaries as what was written to them: what a key reads after pairs were written one behind the other, and that
    writing keeps the order of the keys and may be repeated. -/

namespace PlatformOperator

/-- The key at place `j`, and at none behind it. -/
def LastAt (keys : List String) (key : String) (j : Nat) : Prop := keys[j]? = some key ∧ key ∉ keys.drop (j + 1)

theorem exists_lastAt {key : String} : ∀ {keys : List String}, key ∈ keys → ∃ j, LastAt keys key j
  | k :: keys, h => by
    by_cases hlater : key ∈ keys
    · obtain ⟨j, hj⟩ := exists_lastAt hlater
      exact ⟨j + 1, hj⟩
    · obtain rfl : key = k := (List.mem_cons.mp h).resolve_right hlater
      exact ⟨0, rfl, hlater⟩

namespace Dict
variable {α : Type} {d d' : Dict α} {pairs : List (String × α)} {p : String × α} {k k' : String} {v v' : α} {j : Nat}

/-! ### Keys in order -/

theorem mem_of_get? (h : d.get? k = some v) : (k, v) ∈ d := by
  obtain ⟨before, after, rfl, -⟩ := List.lookup_eq_some_iff.mp h
  simp

theorem get?_eq_none_iff : d.get? k = none ↔ ∀ p ∈ d, p.1 ≠ k := by
  simp only [get?, List.lookup_eq_none_iff, bne_iff_ne, ne_comm]

theorem erase_of_not_contains (h : d.contains k = false) : d.erase k = d := by
  have hnone : d.get? k = none := by simpa [contains] using h
  exact List.filter_eq_self.mpr fun p hp => bne_iff_ne.mpr (get?_eq_none_iff.mp hnone p hp)

theorem mem_insert : ∀ {d : Dict α}, p ∈ insert k v d → p = (k, v) ∨ p ∈ d
  | [], h => .inl (List.mem_singleton.mp h)
  | (k', v') :: d, h => by
    simp only [insert] at h
    split at h
    · exact List.mem_cons.mp h
    · split at h
      · exact (List.mem_cons.mp h).imp_right (List.mem_cons_of_mem _)
      · rcases List.mem_cons.mp h with rfl | h
        · exact .inr List.mem_cons_self
        · exact (mem_insert h).imp_right (List.mem_cons_of_mem _)

/-- The keys ascend, as those of every dictionary do. -/
def Ascending (d : Dict α) : Prop := d.Pairwise fun p q => p.1 < q.1

instance (d : Dict α) : Decidable d.Ascending := inferInstanceAs (Decidable (d.Pairwise _))

theorem ascending_insert (k : String) (v : α) : ∀ {d : Dict α}, d.Ascending → (insert k v d).Ascending
  | [], _ => List.pairwise_singleton _ _
  | (k', v') :: d, h => by
    obtain ⟨hhead, htail⟩ := List.pairwise_cons.mp h
    simp only [insert]
    split
    · rename_i hlt
      refine List.pairwise_cons.mpr ⟨fun p hp => ?_, h⟩
      rcases List.mem_cons.mp hp with rfl | hp
      · exact hlt
      · exact hlt.trans (hhead p hp)
    · rename_i hlt
      split
      · rename_i heq
        exact List.pairwise_cons.mpr ⟨heq ▸ hhead, htail⟩
      · rename_i hne
        refine List.pairwise_cons.mpr ⟨fun p hp => ?_, ascending_insert k v htail⟩
        rcases mem_insert hp with rfl | hp
        · exact lt_of_le_of_ne (not_lt.mp hlt) (Ne.symm hne)
        · exact hhead p hp

theorem ascending_foldl (pairs : List (String × α)) :
    ∀ {d : Dict α}, d.Ascending → (pairs.foldl (fun d p => insert p.1 p.2 d) d).Ascending := by
  induction pairs with
  | nil => exact id
  | cons p pairs ih => exact fun h => ih (ascending_insert p.1 p.2 h)

/-- No two pairs have the same key. -/
theorem nodup_of_ascending (h : d.Ascending) : (d.map (·.1)).Nodup :=
  List.pairwise_map.mpr (h.imp ne_of_lt)

theorem get?_eq_some_iff (h : d.Ascending) : d.get? k = some v ↔ (k, v) ∈ d := by
  refine ⟨mem_of_get?, fun hmem => ?_⟩
  induction d with
  | nil => cases hmem
  | cons q d ih =>
    obtain ⟨hhead, htail⟩ := List.pairwise_cons.mp h
    rw [get?_cons]
    rcases List.mem_cons.mp hmem with rfl | hmem
    · exact if_pos rfl
    · rw [if_neg (hhead _ hmem).ne', ih htail hmem]

/-- What is read under the keys settles a dictionary. -/
theorem ext_get? (h : d.Ascending) (h' : d'.Ascending) (hget : ∀ k, d.get? k = d'.get? k) : d = d' := by
  have nodup {d : Dict α} (h : d.Ascending) : d.Nodup := h.imp fun hlt heq => hlt.ne (congrArg Prod.fst heq)
  have hperm : d.Perm d' := (List.perm_ext_iff_of_nodup (nodup h) (nodup h')).mpr fun ⟨k, v⟩ => by
    rw [← get?_eq_some_iff h, ← get?_eq_some_iff h', hget]
  exact hperm.eq_of_pairwise (fun p q _ _ hpq hqp => absurd hpq hqp.asymm) h h'

theorem nodup_ofList (pairs : List (String × α)) : ((ofList pairs).map (·.1)).Nodup :=
  nodup_of_ascending (ascending_foldl pairs .nil)

/-! ### Pairs in a row -/

theorem get?_foldl_insert_of_not_mem (h : k ∉ pairs.map (·.1)) (d : Dict α) :
    (pairs.foldl (fun d p => insert p.1 p.2 d) d).get? k = d.get? k := by
  induction pairs generalizing d with
  | nil => rfl
  | cons p pairs ih =>
    rw [List.map_cons, List.mem_cons, not_or] at h
    rw [List.foldl_cons, ih h.2, get?_insert, if_neg h.1]

theorem get?_foldl_insert_of_lastAt (hlast : LastAt (pairs.map (·.1)) k j) (d : Dict α) :
    (pairs.foldl (fun d p => insert p.1 p.2 d) d).get? k = (pairs.map (·.2))[j]? := by
  obtain ⟨hj, hbehind⟩ := hlast
  rw [List.getElem?_map, Option.map_eq_some_iff] at hj
  obtain ⟨p, hp, rfl⟩ := hj
  obtain ⟨hlt, hget⟩ := List.getElem?_eq_some_iff.mp hp
  -- Whatever is written before the last pair of the key, that one writes over it, and no pair behind it touches it.
  have hsplit : pairs = pairs.take j ++ p :: pairs.drop (j + 1) := by
    rw [← hget, List.getElem_cons_drop, List.take_append_drop]
  rw [← List.map_drop] at hbehind
  rw [List.getElem?_map, hp, hsplit, List.foldl_append, List.foldl_cons, get?_foldl_insert_of_not_mem hbehind,
    get?_insert, if_pos rfl]
  rfl

/-! ### Written again -/

theorem insert_self (k : String) (v : α) (d : Dict α) : insert k v (insert k v d) = insert k v d := by
  induction d with
  | nil => simp [insert]
  | cons p d ih =>
    obtain ⟨k₀, v₀⟩ := p
    by_cases hlt : k < k₀
    · simp [insert, hlt]
    · by_cases heq : k = k₀
      · simp [insert, heq]
      · simp [insert, hlt, heq, ih]

/-- A pair that is there stays when another key is written. -/
theorem insert_comm_fixed (h : insert k v d = d) (hne : k ≠ k') : insert k v (insert k' v' d) = insert k' v' d := by
  induction d with
  | nil => simp [insert] at h
  | cons p d ih =>
    obtain ⟨k₀, v₀⟩ := p
    by_cases hlt : k < k₀
    · simp [insert, hlt] at h
    · by_cases heq : k = k₀
      · grind [insert]
      · have hbelow : k₀ < k := by grind
        have hrest : insert k v d = d := by simpa [insert, hlt, heq] using h
        have hrest' := ih hrest
        grind [insert]

theorem insert_foldl_fixed (h : insert k v d = d) (hpairs : k ∉ pairs.map (·.1)) :
    insert k v (pairs.foldl (fun d p => insert p.1 p.2 d) d) = pairs.foldl (fun d p => insert p.1 p.2 d) d := by
  induction pairs generalizing d with
  | nil => exact h
  | cons p pairs ih =>
    rw [List.map_cons, List.mem_cons, not_or] at hpairs
    exact ih (insert_comm_fixed h hpairs.1) hpairs.2

theorem foldl_insert_fixed (h : ∀ p ∈ pairs, insert p.1 p.2 d = d) :
    pairs.foldl (fun d p => insert p.1 p.2 d) d = d := by
  induction pairs with
  | nil => rfl
  | cons p pairs ih =>
    obtain ⟨hp, hpairs⟩ := List.forall_mem_cons.mp h
    rw [List.foldl_cons, hp, ih hpairs]

/-- Pairs of different keys may be written again. -/
theorem foldl_insert_again (hkeys : (pairs.map (·.1)).Nodup) (d : Dict α) :
    pairs.foldl (fun d p => insert p.1 p.2 d) (pairs.foldl (fun d p => insert p.1 p.2 d) d) =
      pairs.foldl (fun d p => insert p.1 p.2 d) d := by
  refine foldl_insert_fixed ?_
  induction pairs generalizing d with
  | nil => exact List.forall_mem_nil _
  | cons p pairs ih =>
    obtain ⟨hnot, hkeys⟩ := List.nodup_cons.mp hkeys
    have hp := insert_foldl_fixed (insert_self p.1 p.2 d) hnot
    exact List.forall_mem_cons.mpr ⟨hp, ih hkeys _⟩

end Dict
end PlatformOperator
