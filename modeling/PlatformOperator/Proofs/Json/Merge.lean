import PlatformOperator.Proofs.Json.Patch

/-! Merge patches against their definition in RFC 7386, and what follows from it for values at any depth: patching twice
    is patching once, what a patch spares stays, and what it sets to null below objects is gone. -/

namespace PlatformOperator.Json

/-! ### The reference -/

/-- The object that a target is taken for; empty unless it is one. -/
def objectOf : Option Json → Dict Json
  | some (.obj object) => object
  | _ => []

mutual

/-- The procedure of RFC 7386. The target is undefined where a name is new. -/
def mergePatch (target : Option Json) : Json → Json
  | .obj patch => .obj (mergePairs (objectOf target) patch)
  | patch => patch

/-- The pairs of the patch, one after another: a null removes the pair of its name if that exists, any other value is
    merged into what the name has. -/
def mergePairs (object : Dict Json) : List (String × Json) → Dict Json
  | [] => object
  | (name, value) :: pairs =>
    if value = .null then mergePairs (if object.contains name then object.erase name else object) pairs
    else mergePairs (object.insert name (mergePatch (object.get? name) value)) pairs

end

/-! ### Paths -/

/-- One step down into a value. -/
inductive Step where
  | member (name : String)
  | item (index : Nat)
  deriving DecidableEq, Repr

/-- What is at a path. -/
def at? (j : Json) : List Step → Option Json
  | [] => some j
  | .member name :: path => (j.get? name).bind (·.at? path)
  | .item index :: path => j.items[index]?.bind (·.at? path)

/-- The patch does not name the path, and what it has on the way is entered by a name: nothing that stands there is
    replaced. -/
structure Spares (patch : Json) (path : List Step) : Prop where
  unnamed : patch.at? path = none
  entered : ∀ ancestor step rest, path = ancestor ++ step :: rest → ∀ value, patch.at? ancestor = some value →
    ∃ members name, value = .obj members ∧ step = .member name

/-- The members of all objects in the value are dictionaries. -/
inductive WellFormed : Json → Prop
  | null : WellFormed .null
  | bool (b : Bool) : WellFormed (.bool b)
  | int (n : Int) : WellFormed (.int n)
  | decimal (d : Decimal) : WellFormed (.decimal d)
  | str (s : String) : WellFormed (.str s)
  | arr {xs : List Json} (items : ∀ x ∈ xs, WellFormed x) : WellFormed (.arr xs)
  | obj {ms : Dict Json} (ascending : ms.Ascending) (values : ∀ m ∈ ms, WellFormed m.2) : WellFormed (.obj ms)

variable {t p q : Json} {ms ps : Dict Json} {name : String} {path : List Step}

/-! ### The same as the reference -/

theorem members_getD (target : Option Json) : (target.getD .null).members = objectOf target := by
  cases target with
  | none => rfl
  | some t => cases t <;> rfl

mutual

/-- To merge into a null is to merge into nothing. -/
theorem merge_getD (target : Option Json) : (p : Json) → merge (target.getD .null) p = mergePatch target p
  | .obj ps => by rw [merge, mergePatch, members_getD, mergeMembers_eq_mergePairs]
  | .null | .bool _ | .int _ | .decimal _ | .str _ | .arr _ => rfl

theorem mergeMembers_eq_mergePairs (ms : Dict Json) : (ps : List (String × Json)) → mergeMembers ms ps = mergePairs ms ps
  | [] => rfl
  | (k, v) :: ps => by
    rw [mergePairs]
    split
    · next hnull =>
      rw [hnull, mergeMembers_cons_null, mergeMembers_eq_mergePairs]
      split
      · rfl
      · next habsent => rw [Dict.erase_of_not_contains (by simpa using habsent)]
    · next hnull => rw [mergeMembers_cons hnull, merge_getD, mergeMembers_eq_mergePairs]

end

/-! ### Members -/

theorem get?_merge_obj (t : Json) (ps : Dict Json) (name : String) :
    (merge t (.obj ps)).get? name = Dict.get? (mergeMembers t.members ps) name := by
  rw [merge]
  rfl

theorem ascending_merge_obj (h : Dict.Ascending t.members) : Dict.Ascending (merge t (.obj ps)).members := by
  rw [merge]
  exact ascending_mergeMembers h

/-- A member that the patch does not have stays. -/
theorem get?_merge_of_none (h : ps.get? name = none) : (merge t (.obj ps)).get? name = t.get? name :=
  (get?_merge_obj t ps name).trans (get?_mergeMembers_of_not_mem (Dict.get?_eq_none_iff.mp h))

theorem get?_merge_of_some (hps : ps.Ascending) (h : ps.get? name = some q) : (merge t (.obj ps)).get? name =
    if q = .null then none else some (merge ((t.get? name).getD .null) q) :=
  (get?_merge_obj t ps name).trans (get?_mergeMembers (Dict.nodup_of_ascending hps) (Dict.mem_of_get? h))

namespace WellFormed

theorem members (h : WellFormed t) : t.members.Ascending := by
  cases h with
  | obj ascending => exact ascending
  | _ => exact .nil

theorem get? (h : WellFormed t) (hq : t.get? name = some q) : WellFormed q := by
  cases h with
  | obj ascending values => exact values _ (Dict.mem_of_get? hq)
  | _ => cases hq

/-- A member that is not there counts as null. -/
theorem member (h : WellFormed t) (name : String) : WellFormed ((t.get? name).getD .null) := by
  cases hq : t.get? name with
  | none => exact .null
  | some q => exact h.get? hq

end WellFormed

/-- A patched value is well-formed again. -/
theorem WellFormed.merge (ht : t.WellFormed) (hp : p.WellFormed) : (merge t p).WellFormed := by
  induction hp generalizing t with
  | @obj ps ascending values ih =>
    have hasc : Dict.Ascending (Json.merge t (.obj ps)).members := ascending_merge_obj ht.members
    have hvalue (name : String) (v : Json) (hv : (Json.merge t (.obj ps)).get? name = some v) : v.WellFormed := by
      cases hq : Dict.get? ps name with
      | none => exact ht.get? ((get?_merge_of_none hq).symm.trans hv)
      | some q =>
        rw [get?_merge_of_some ascending hq] at hv
        split at hv
        · cases hv
        · cases hv
          exact ih _ (Dict.mem_of_get? hq) (ht.member name)
    rw [Json.merge] at hasc hvalue ⊢
    exact .obj hasc fun m hm => hvalue m.1 m.2 ((Dict.get?_eq_some_iff hasc).mpr hm)
  | null => exact .null
  | bool b => exact .bool b
  | int n => exact .int n
  | decimal d => exact .decimal d
  | str s => exact .str s
  | arr items => exact .arr items

/-! ### Patching twice -/

theorem merge_again (ht : t.WellFormed) (hp : p.WellFormed) : merge (merge t p) p = merge t p := by
  induction hp generalizing t with
  | @obj ps ascending values ih =>
    have hmembers : (merge (merge t (.obj ps)) (.obj ps)).members = (merge t (.obj ps)).members := by
      refine Dict.ext_get? (ascending_merge_obj (ascending_merge_obj ht.members)) (ascending_merge_obj ht.members)
        fun name => ?_
      show (merge (merge t (.obj ps)) (.obj ps)).get? name = (merge t (.obj ps)).get? name
      cases hq : Dict.get? ps name with
      | none => exact get?_merge_of_none hq
      | some q =>
        rw [get?_merge_of_some ascending hq, get?_merge_of_some ascending hq]
        by_cases hnull : q = .null
        · rw [if_pos hnull, if_pos hnull]
        · rw [if_neg hnull, if_neg hnull, Option.getD_some, ih _ (Dict.mem_of_get? hq) (ht.member name)]
    rw [merge, merge] at hmembers ⊢
    exact congrArg obj hmembers
  | _ => rfl

/-! ### What a patch spares and what it takes away -/

theorem Spares.obj_of_cons {step : Step} (h : Spares p (step :: path)) :
    ∃ ps name, p = .obj ps ∧ step = .member name :=
  h.entered [] step path rfl p rfl

theorem at?_obj_cons (ps : Dict Json) (name : String) (path : List Step) :
    (obj ps).at? (.member name :: path) = (ps.get? name).bind (·.at? path) := rfl

/-- A patch spares what lies below a name just if it does not have the name or spares it from there. -/
theorem spares_obj_iff : Spares (.obj ps) (.member name :: path) ↔ ∀ q, ps.get? name = some q → Spares q path := by
  constructor
  · intro h q hq
    have hat (path : List Step) : (obj ps).at? (.member name :: path) = q.at? path := by rw [at?_obj_cons, hq]; rfl
    refine ⟨(hat path).symm.trans h.unnamed, fun ancestor step rest hpath value hvalue => ?_⟩
    exact h.entered (.member name :: ancestor) step rest (by rw [hpath]; rfl) value ((hat ancestor).trans hvalue)
  · intro h
    refine ⟨?_, fun ancestor step rest hpath value hvalue => ?_⟩
    · rw [at?_obj_cons]
      cases hq : Dict.get? ps name with
      | none => rfl
      | some q => exact (h q hq).unnamed
    · cases ancestor with
      | nil =>
        cases hvalue
        cases hpath
        exact ⟨ps, name, rfl, rfl⟩
      | cons _ ancestor =>
        cases hpath
        rw [at?_obj_cons] at hvalue
        obtain ⟨q, hq, hvalue⟩ := Option.bind_eq_some_iff.mp hvalue
        exact (h q hq).entered ancestor step rest rfl value hvalue

theorem at?_null_of_ne_nil (h : path ≠ []) : null.at? path = none := by
  cases path with
  | nil => exact absurd rfl h
  | cons step path => cases step <;> rfl

/-- What the patch spares is as it was. -/
theorem at?_merge_of_spares (hp : p.WellFormed) (h : Spares p path) (t : Json) : (merge t p).at? path = t.at? path := by
  induction path generalizing t p with
  | nil => cases h.unnamed
  | cons step path ih =>
    obtain ⟨ps, name, rfl, rfl⟩ := h.obj_of_cons
    rw [at?, at?]
    cases hq : Dict.get? ps name with
    | none => rw [get?_merge_of_none hq]
    | some q =>
      have hspares := spares_obj_iff.mp h q hq
      have hne : path ≠ [] := by
        rintro rfl
        cases hspares.unnamed
      have hnull : q ≠ .null := by
        obtain ⟨step, path, rfl⟩ := List.exists_cons_of_ne_nil hne
        obtain ⟨qs, -, rfl, -⟩ := hspares.obj_of_cons
        exact Json.noConfusion
      have hps : Dict.Ascending ps := hp.members
      rw [get?_merge_of_some hps hq, if_neg hnull, Option.bind_some, ih (hp.get? hq) hspares]
      cases t.get? name with
      | none => exact at?_null_of_ne_nil hne
      | some s => rfl

/-- What is null in the patch, below objects, is gone. -/
theorem at?_merge_of_null (hp : p.WellFormed) {names : List String} (hne : names ≠ [])
    (h : p.at? (names.map .member) = some .null) (t : Json) : (merge t p).at? (names.map .member) = none := by
  induction names generalizing t p with
  | nil => exact absurd rfl hne
  | cons name names ih =>
    rw [List.map_cons, at?] at h ⊢
    obtain ⟨q, hq, hnull⟩ := Option.bind_eq_some_iff.mp h
    cases p with
    | obj ps =>
      have hps : Dict.Ascending ps := hp.members
      rw [get?_merge_of_some hps hq]
      by_cases hlast : q = .null
      · rw [if_pos hlast, Option.bind_none]
      · rw [if_neg hlast, Option.bind_some]
        refine ih (hp.get? hq) ?_ hnull _
        rintro rfl
        exact hlast (Option.some.inj hnull)
    | _ => cases hq

/-- A merge is what RFC 7386 defines. So to patch twice is to patch once, what the patch neither names nor replaces on
    the way keeps its value, and what is null in the patch, below objects, is absent. -/
theorem merge_patches (t p : Json) :
    merge t p = mergePatch (some t) p ∧
      (t.WellFormed → p.WellFormed → merge (merge t p) p = merge t p) ∧
      (p.WellFormed →
        (∀ path, Spares p path → (merge t p).at? path = t.at? path) ∧
        ∀ names : List String, names ≠ [] → p.at? (names.map .member) = some .null →
          (merge t p).at? (names.map .member) = none) :=
  ⟨merge_getD (some t) p, merge_again,
    fun hp => ⟨fun _ h => at?_merge_of_spares hp h t, fun _ hne h => at?_merge_of_null hp hne h t⟩⟩

namespace Overlay

/-- An object with lists and objects in it. -/
def target : Json :=
  .obj [("a", .obj [("list", .arr [.int 1, .null]), ("old", .int 2)]), ("b", .str "text"), ("c", .bool true)]

/-- It takes away a member and an absent one, replaces a text by an object and adds what was not there. -/
def patch : Json :=
  .obj [("a", .obj [("new", .obj [("x", .null), ("y", .arr [.null])]), ("old", .null)]),
    ("b", .obj [("deep", .null), ("z", .int 3)])]

def merged : Json :=
  .obj [("a", .obj [("list", .arr [.int 1, .null]), ("new", .obj [("y", .arr [.null])])]),
    ("b", .obj [("z", .int 3)]), ("c", .bool true)]

theorem wellFormed_target : target.WellFormed := by
  have list : (arr [.int 1, .null]).WellFormed := .arr (by simp [WellFormed.int, WellFormed.null])
  have inner : (obj [("list", .arr [.int 1, .null]), ("old", .int 2)]).WellFormed :=
    .obj (by decide +kernel) (by simp [list, WellFormed.int])
  exact .obj (by decide +kernel) (by simp [inner, WellFormed.str, WellFormed.bool])

theorem wellFormed_patch : patch.WellFormed := by
  have list : (arr [.null]).WellFormed := .arr (by simp [WellFormed.null])
  have new : (obj [("x", .null), ("y", .arr [.null])]).WellFormed :=
    .obj (by decide +kernel) (by simp [list, WellFormed.null])
  have first : (obj [("new", .obj [("x", .null), ("y", .arr [.null])]), ("old", .null)]).WellFormed :=
    .obj (by decide +kernel) (by simp [new, WellFormed.null])
  have second : (obj [("deep", .null), ("z", .int 3)]).WellFormed :=
    .obj (by decide +kernel) (by simp [WellFormed.int, WellFormed.null])
  exact .obj (by decide +kernel) (by simp [first, second])

end Overlay

open Overlay in
theorem merge_patches_sample :
    target.WellFormed ∧ patch.WellFormed ∧ merge target patch = merged ∧ mergePatch (some target) patch = merged ∧
      merge merged patch = merged ∧ Spares patch [.member "a", .member "list", .item 0] ∧
      merged.at? [.member "a", .member "list", .item 0] = some (.int 1) ∧
      patch.at? [.member "b", .member "deep"] = some .null ∧ merged.at? [.member "b", .member "deep"] = none := by
  obtain ⟨hreference, htwice, hpaths⟩ := merge_patches target patch
  have hagain := htwice wellFormed_target wellFormed_patch
  obtain ⟨hspared, hgone⟩ := hpaths wellFormed_patch
  have hmerged : merge target patch = merged := by decide +kernel
  rw [hmerged] at hreference hagain hspared hgone
  have hspares : Spares patch [.member "a", .member "list", .item 0] := by
    refine spares_obj_iff.mpr fun q hq => ?_
    cases hq
    refine spares_obj_iff.mpr fun q hq => ?_
    cases hq
  exact ⟨wellFormed_target, wellFormed_patch, hmerged, hreference.symm, hagain, hspares, hspared _ hspares, rfl,
    hgone ["b", "deep"] (by simp) rfl⟩

end PlatformOperator.Json
