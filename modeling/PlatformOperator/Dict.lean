/-! Dictionaries keyed by text: lists of pairs in ascending key order, each key once. Reading a key
    gives what was written to it last, and writing keeps the order. -/

namespace PlatformOperator

/-- Pairs in ascending order of their keys. -/
abbrev Dict (α : Type) := List (String × α)

namespace Dict
variable {α : Type}

/-- The value under key `k`. -/
def get? (d : Dict α) (k : String) : Option α := d.lookup k

def contains (d : Dict α) (k : String) : Bool := (d.get? k).isSome

/-- Puts `v` under `k`, in the place that keeps the keys ascending. -/
def insert (k : String) (v : α) : Dict α → Dict α
  | [] => [(k, v)]
  | (k', v') :: d => if k < k' then (k, v) :: (k', v') :: d else if k = k' then (k, v) :: d
      else (k', v') :: insert k v d

/-- Removes key `k`. -/
def erase (k : String) (d : Dict α) : Dict α := d.filter (·.1 != k)

/-- Writes the pairs one after another, so that a later pair wins over an earlier one of the same key. -/
def ofList (pairs : List (String × α)) : Dict α := pairs.foldl (fun d p => insert p.1 p.2 d) []

def keys (d : Dict α) : List String := d.map (·.1)

@[simp] theorem get?_nil (k : String) : get? ([] : Dict α) k = none := rfl

theorem get?_cons (k k' : String) (v : α) (d : Dict α) :
    get? ((k', v) :: d) k = if k = k' then some v else get? d k := by
  by_cases h : k = k'
  · subst h; simp [get?]
  · have hb : (k == k') = false := by simp [h]
    rw [if_neg h, get?, List.lookup_cons, hb]
    rfl

theorem get?_insert (k k' : String) (v : α) (d : Dict α) :
    (insert k v d).get? k' = if k' = k then some v else d.get? k' := by
  induction d with
  | nil => simp [insert, get?_cons]
  | cons p d ih =>
    obtain ⟨k₀, v₀⟩ := p
    simp only [insert]
    split
    · simp [get?_cons]
    · split
      · next h => subst h; simp only [get?_cons]; split <;> rfl
      · simp only [get?_cons, ih]
        by_cases h₁ : k' = k <;> by_cases h₂ : k' = k₀ <;> simp_all

theorem get?_erase (k k' : String) (d : Dict α) :
    (erase k d).get? k' = if k' = k then none else d.get? k' := by
  induction d with
  | nil => simp [erase]
  | cons p d ih =>
    obtain ⟨k₀, v₀⟩ := p
    simp only [erase, List.filter_cons] at ih ⊢
    by_cases h₁ : k₀ = k <;> by_cases h₂ : k' = k₀ <;> simp_all [get?_cons]

theorem get?_foldl_insert (k : String) : ∀ (pairs : List (String × α)) (d : Dict α), (pairs.map (·.1)).Nodup →
    (pairs.foldl (fun d p => insert p.1 p.2 d) d).get? k = (get? pairs k).or (d.get? k)
  | [], d, _ => rfl
  | (k', v) :: pairs, d, h => by
    obtain ⟨hnot, hrest⟩ := List.nodup_cons.mp h
    rw [List.foldl_cons, get?_foldl_insert k pairs _ hrest, get?_insert, get?_cons]
    split
    · next heq =>
      subst heq
      have hnone : get? pairs k = none := List.lookup_eq_none_iff.mpr fun p hp => by
        simpa using fun heq : k = p.1 => hnot (List.mem_map.mpr ⟨p, hp, heq.symm⟩)
      rw [hnone]
      rfl
    · rfl

end Dict
end PlatformOperator
