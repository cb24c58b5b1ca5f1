import PlatformOperator.Json.Patch
import PlatformOperator.Json.Record
import PlatformOperator.Proofs.Dict

/-! Members of written objects and of patched ones: what was written reads back, and a patch replaces the
    members it names and leaves all others as they are. -/

namespace PlatformOperator

namespace Json
variable {α : Type} {k : String} {v : Option Json} {p j : Json} {ms ps : List (String × Json)}
  {fields fields' : Dict Json} {read : Json → Option α} {write : α → Json} {a b : Option α}

/-! ### Written members -/

theorem get?_filterMap_of_mem {pairs : List (String × Option Json)} (hnodup : (pairs.map (·.1)).Nodup)
    (h : (k, v) ∈ pairs) : Dict.get? (pairs.filterMap fun p => p.2.map (p.1, ·)) k = v := by
  induction pairs with
  | nil => cases h
  | cons pair pairs ih =>
    obtain ⟨k', v'⟩ := pair
    obtain ⟨hnot, hrest⟩ := List.nodup_cons.mp hnodup
    rcases List.mem_cons.mp h with heq | hmem
    · cases heq
      cases v with
      | some j => simp [Dict.get?_cons]
      | none =>
        rw [List.filterMap_cons_none rfl]
        refine Dict.get?_eq_none_iff.mpr fun p hp heq => ?_
        obtain ⟨pair, hpair, hp⟩ := List.mem_filterMap.mp hp
        obtain ⟨j, -, rfl⟩ := Option.map_eq_some_iff.mp hp
        exact hnot (List.mem_map.mpr ⟨pair, hpair, heq⟩)
    · have hne : k ≠ k' := by
        rintro rfl
        exact hnot (List.mem_map.mpr ⟨(k, v), hmem, rfl⟩)
      rw [← ih hrest hmem]
      cases v' with
      | none => rfl
      | some j => simp [Dict.get?_cons, hne]

theorem keys_filterMap_sublist (pairs : List (String × Option Json)) :
    ((pairs.filterMap fun p => p.2.map (p.1, ·)).map (·.1)).Sublist (pairs.map (·.1)) := by
  induction pairs with
  | nil => exact .slnil
  | cons pair pairs ih =>
    obtain ⟨k, v⟩ := pair
    cases v with
    | none => exact ih.cons k
    | some j => exact ih.cons_cons k

/-- A member reads as it was written, if it is present. -/
theorem get?_ofPresent {pairs : List (String × Option Json)} (hnodup : (pairs.map (·.1)).Nodup)
    (h : (k, v) ∈ pairs) : (ofPresent pairs).get? k = v := by
  show Dict.get? (Dict.ofList _) k = v
  unfold Dict.ofList
  rw [Dict.get?_foldl_insert k _ _ (hnodup.sublist (keys_filterMap_sublist pairs)), get?_filterMap_of_mem hnodup h,
    Dict.get?_nil, Option.or_none]

/-! ### Fields that read as they were written -/

theorem optional_congr (h : fields'.get? k = fields.get? k) (read : Json → Option α) :
    optional fields' k read = optional fields k read := by
  unfold optional
  rw [h]

theorem optional_of_none (h : fields.get? k = none) :
    optional fields k read = some none := by
  unfold optional
  rw [h]

theorem optional_of_some (h : fields.get? k = some j) (hj : j ≠ .null) :
    optional fields k read = (read j).map some := by
  unfold optional
  rw [h]
  cases j with
  | null => exact absurd rfl hj
  | _ => rfl

/-- A field reads back if what it may hold does. -/
theorem optional_of_map (h : fields.get? k = a.map write)
    (hnull : ∀ a, write a ≠ .null) (hread : ∀ a, read (write a) = some a) : optional fields k read = some a := by
  cases a with
  | none => exact optional_of_none h
  | some a => rw [optional_of_some h (hnull a), hread, Option.map_some]

theorem optional_str {s : Option String} (h : fields.get? k = s.map .str) : optional fields k str? = some s :=
  optional_of_map h (fun _ => by simp) fun _ => rfl

theorem optional_bool {b : Option Bool} (h : fields.get? k = b.map .bool) : optional fields k bool? = some b :=
  optional_of_map h (fun _ => by simp) fun _ => rfl

/-- The integer has no more than 64 bits. -/
def IsWord (n : Int) : Prop := -(wordSize 63 : Int) ≤ n ∧ n < wordSize 63

theorem signed?_eq_some {n : Int} : signed? 64 j = some n ↔ j = .int n ∧ IsWord n := by
  unfold signed?
  constructor
  · intro h
    split at h
    · split at h
      · rename_i hn
        cases h
        exact ⟨rfl, hn⟩
      · cases h
    · cases h
  · rintro ⟨rfl, hn⟩
    exact if_pos hn

theorem signed?_again {n : Int} (h : signed? 64 j = some n) : signed? 64 (.int n) = some n :=
  signed?_eq_some.mpr ⟨rfl, (signed?_eq_some.mp h).2⟩

theorem optional_word {n : Option Int} (h : fields.get? k = n.map .int) (hn : ∀ i, n = some i → IsWord i) :
    optional fields k (signed? 64) = some n := by
  cases n with
  | none => exact optional_of_none h
  | some i => rw [optional_of_some h (by simp), signed?_eq_some.mpr ⟨rfl, hn i rfl⟩, Option.map_some]

/-- A field that holds something was read from something. -/
theorem read_of_optional {x : Option α} {a : α} (h : optional fields k read = some x) (hx : x = some a) :
    ∃ j, read j = some a := by
  subst hx
  unfold optional at h
  split at h
  · cases h
  · cases h
  · rename_i j _ _
    obtain ⟨_, hread, heq⟩ := Option.map_eq_some_iff.mp h
    cases heq
    exact ⟨j, hread⟩

theorem isWord_of_optional {n : Option Int} {i : Int} (h : optional fields k (signed? 64) = some n) (hn : n = some i) :
    IsWord i := by
  obtain ⟨j, hj⟩ := read_of_optional h hn
  exact (signed?_eq_some.mp hj).2

/-- Every item of a list that was read was read from something. -/
theorem mem_list? {ys : List α} {y : α} (h : list? read j = some ys) (hy : y ∈ ys) : ∃ x, read x = some y := by
  cases j <;> try cases h
  rename_i xs
  change xs.mapM read = some ys at h
  induction xs generalizing ys with
  | nil =>
    cases h
    cases hy
  | cons x xs ih =>
    rw [List.mapM_cons] at h
    simp only [bind, Option.bind_eq_some_iff, pure, Option.some.injEq] at h
    obtain ⟨z, hz, zs, hzs, rfl⟩ := h
    rcases List.mem_cons.mp hy with rfl | hrest
    · exact ⟨x, hz⟩
    · exact ih hrest hzs

/-- A list reads item by item. -/
theorem list?_map_of {f : α → α} {as : List α} (h : ∀ a ∈ as, read (write a) = some (f a)) :
    list? read (.arr (as.map write)) = some (as.map f) := by
  show (as.map write).mapM read = some (as.map f)
  induction as with
  | nil => rfl
  | cons a as ih => simp [h a List.mem_cons_self, ih fun b hb => h b (List.mem_cons_of_mem a hb)]

theorem list?_map (h : ∀ a, read (write a) = some a) (as : List α) : list? read (.arr (as.map write)) = some as := by
  have hall : list? read (.arr (as.map write)) = some (as.map id) := list?_map_of fun a _ => h a
  simpa using hall

theorem list?_str : ∀ ss : List String, list? str? (.arr (ss.map .str)) = some ss := list?_map fun _ => rfl

theorem dict?_ofDict (d : Dict String) : dict? str? (ofDict .str d) = some d := by
  show (d.map fun p => (p.1, Json.str p.2)).mapM (fun p => (str? p.2).map (p.1, ·)) = some d
  induction d with
  | nil => rfl
  | cons p d ih =>
    rw [List.map_cons, List.mapM_cons, ih]
    rfl

/-! ### Fields that were written and read once -/

/-- What a field was read as reads the same once it is written, if that holds of all it may hold. -/
theorem optional_again (h : fields.get? k = a.map write) (hread : optional fields k read = some b)
    (h' : fields'.get? k = b.map write)
    (hagain : ∀ x y, write x ≠ .null → read (write x) = some y → write y ≠ .null ∧ read (write y) = some y) :
    optional fields' k read = some b := by
  cases a with
  | none =>
    rw [optional_of_none h, Option.some.injEq] at hread
    subst hread
    exact optional_of_none h'
  | some x =>
    by_cases hnull : write x = .null
    · have hnone : optional fields k read = some none := by
        unfold optional
        rw [h, Option.map_some, hnull]
      rw [hnone, Option.some.injEq] at hread
      subst hread
      exact optional_of_none h'
    · rw [optional_of_some h hnull] at hread
      obtain ⟨y, hy, rfl⟩ := Option.map_eq_some_iff.mp hread
      obtain ⟨hnull', hy'⟩ := hagain x y hnull hy
      rw [optional_of_some h' hnull', hy', Option.map_some]

theorem list?_again (hagain : ∀ x y, read (write x) = some y → read (write y) = some y) :
    ∀ {xs ys : List α}, list? read (.arr (xs.map write)) = some ys → list? read (.arr (ys.map write)) = some ys := by
  intro xs ys h
  change (xs.map write).mapM read = some ys at h
  show (ys.map write).mapM read = some ys
  induction xs generalizing ys with
  | nil =>
    cases h
    rfl
  | cons x xs ih =>
    rw [List.map_cons, List.mapM_cons] at h
    simp only [bind, Option.bind_eq_some_iff, pure, Option.some.injEq] at h
    obtain ⟨y, hy, ys', hys, rfl⟩ := h
    simp [hagain x y hy, ih hys]

/-! ### Patched members -/

theorem mergeMembers_cons_null : mergeMembers ms ((k, .null) :: ps) = mergeMembers (Dict.erase k ms) ps := by
  rw [mergeMembers]

theorem mergeMembers_cons (h : p ≠ .null) :
    mergeMembers ms ((k, p) :: ps) = mergeMembers (Dict.insert k (merge ((Dict.get? ms k).getD .null) p) ms) ps := by
  rw [mergeMembers]
  exact h

/-- A patch leaves the members alone that it does not name. -/
theorem get?_mergeMembers_of_not_mem (h : ∀ p ∈ ps, p.1 ≠ k) :
    Dict.get? (mergeMembers ms ps) k = Dict.get? ms k := by
  induction ps generalizing ms with
  | nil => rw [mergeMembers]
  | cons pair ps ih =>
    obtain ⟨k', j⟩ := pair
    have hne : k ≠ k' := (h _ List.mem_cons_self).symm
    have hrest : ∀ p ∈ ps, p.1 ≠ k := fun p hp => h p (List.mem_cons_of_mem _ hp)
    by_cases hnull : j = .null
    · rw [hnull, mergeMembers_cons_null, ih hrest, Dict.get?_erase, if_neg hne]
    · rw [mergeMembers_cons hnull, ih hrest, Dict.get?_insert, if_neg hne]

/-- A member that the patch names is removed by a null, and merged with anything else that the patch says of it. -/
theorem get?_mergeMembers (hnodup : (ps.map (·.1)).Nodup) (h : (k, p) ∈ ps) : Dict.get? (mergeMembers ms ps) k =
    if p = .null then none else some (merge ((Dict.get? ms k).getD .null) p) := by
  induction ps generalizing ms with
  | nil => cases h
  | cons pair ps ih =>
    obtain ⟨k', j⟩ := pair
    obtain ⟨hnot, hrest⟩ := List.nodup_cons.mp hnodup
    rcases List.mem_cons.mp h with heq | hmem
    · cases heq
      have hlater : ∀ p ∈ ps, p.1 ≠ k := fun q hq heq => hnot (List.mem_map.mpr ⟨q, hq, heq⟩)
      by_cases hnull : p = .null
      · rw [hnull, mergeMembers_cons_null, get?_mergeMembers_of_not_mem hlater, Dict.get?_erase, if_pos rfl, if_pos rfl]
      · rw [mergeMembers_cons hnull, get?_mergeMembers_of_not_mem hlater, Dict.get?_insert, if_pos rfl, if_neg hnull]
    · have hne : k ≠ k' := by
        rintro rfl
        exact hnot (List.mem_map.mpr ⟨(k, p), hmem, rfl⟩)
      by_cases hnull : j = .null
      · rw [hnull, mergeMembers_cons_null, ih hrest hmem, Dict.get?_erase, if_neg hne]
      · rw [mergeMembers_cons hnull, ih hrest hmem, Dict.get?_insert, if_neg hne]

theorem get?_mergeMembers_of_mem (hnodup : (ps.map (·.1)).Nodup) (h : (k, p) ∈ ps) (hp : p ≠ .null) :
    Dict.get? (mergeMembers ms ps) k = some (merge ((Dict.get? ms k).getD .null) p) := by
  rw [get?_mergeMembers hnodup h, if_neg hp]

/-- What a patch says of a member is there after it, unless that is itself merged into what was there. -/
theorem get?_merge (hnodup : (ps.map (·.1)).Nodup) (h : Dict.get? ps k = some p) (hp : p ≠ .null)
    (hflat : ∀ target, merge target p = p) (target : Json) : (merge target (.obj ps)).get? k = some p := by
  rw [merge]
  show Dict.get? (mergeMembers target.members ps) k = some p
  rw [get?_mergeMembers_of_mem hnodup (Dict.mem_of_get? h) hp, hflat]

theorem ascending_mergeMembers (h : Dict.Ascending ms) : Dict.Ascending (mergeMembers ms ps) := by
  induction ps generalizing ms with
  | nil =>
    rw [mergeMembers]
    exact h
  | cons pair ps ih =>
    obtain ⟨k, j⟩ := pair
    by_cases hnull : j = .null
    · rw [hnull, mergeMembers_cons_null]
      exact ih (h.filter _)
    · rw [mergeMembers_cons hnull]
      exact ih (Dict.ascending_insert _ _ h)

end Json
end PlatformOperator
