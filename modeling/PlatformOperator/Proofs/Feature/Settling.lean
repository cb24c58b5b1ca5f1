import PlatformOperator.Proofs.Cluster.Replacing
import PlatformOperator.Proofs.Feature.Step

/-! Objects of a feature that are applied one after another, several of them perhaps under one key. Whether one of them
    is written depends on the marker that the ones before it left there. What is left alone once stays as it is, and
    what is not was made by objects that may all be applied again, so that going through all of them once more changes
    nothing (`foldl_settle_again`). -/

namespace PlatformOperator

/-- The object under the key is there, and refers to this owner at most once. -/
def Cluster.OwnedOnce (uid : String) (k : Key) (c : Cluster) : Prop :=
  ∃ o, c.object? k = some o ∧ o.metadata.owners.countP (·.uid == uid) ≤ 1

namespace Feature
open Cluster
variable {f : Feature} {tracker : OwnerReference} {c c' : Cluster} {k : Key} {s x o o' p : Object} {xs : List Object}
  {ps : List (Key × Object)} {found : Option Object}

/-! ### What is left alone -/

/-- The annotations alone decide what is left alone. -/
theorem leaves_congr (h : o'.metadata.annotations = o.metadata.annotations) : f.leaves o' = f.leaves o := by
  unfold leaves ObjectMeta.annotation?
  rw [h]

theorem leaves_replacing (s x : Object) : f.leaves (replacing s x) = f.leaves x := leaves_congr rfl

/-- An object that was opted out is always left alone. -/
theorem isUnmanaged_of_leaves (h : f.leaves o = false) : o.metadata.isUnmanaged = false := by
  unfold leaves at h
  exact (Bool.or_eq_false_iff.mp h).1

/-- A managed feature never leaves alone what it applied itself. -/
theorem leaves_owned (hmanaged : f.managed = true) : f.leaves (f.owned tracker p) = false := by
  have hmarker : (f.owned tracker p).metadata.annotation? Marks.managed = some "true" := by
    unfold owned
    simp [hmanaged, Object.mapMeta, ObjectMeta.annotate, ObjectMeta.annotation?, Dict.get?_insert]
  unfold leaves
  rw [hmarker, hmanaged]
  decide

/-! ### Settling objects -/

/-- Applies an object under a key, unless the one that is there is left alone. -/
def settle (f : Feature) (c : Cluster) (p : Key × Object) : Cluster :=
  if (c.object? p.1).any f.leaves then c else c.settle p

/-- The object under a key after another one was applied to it: left alone, it stays. -/
def revised (f : Feature) (s x : Object) : Object := if f.leaves s then s else replacing s x

/-- What an object is after `x` was applied to it, or to nothing: revised, or new, and then as applying `x` again leaves
    it. -/
inductive Settles (f : Feature) (x s : Object) : Option Object → Prop where
  | revised (old : Object) (h : s = f.revised old x) : Settles f x s (some old)
  | created (h : replacing s x = s) : Settles f x s none

theorem settle_cases (f : Feature) (c : Cluster) (k : Key) (x : Object) :
    c.SameSettings (f.settle c (k, x)) ∧ ∃ s, f.Settles x s (c.object? k) ∧
      ∀ k', (f.settle c (k, x)).object? k' = if k' = k then some s else c.object? k' := by
  unfold settle
  obtain ⟨hset, -, s, hs, hobject⟩ := Cluster.settle_cases c k x
  cases hold : c.object? k with
  | none =>
    rw [hold] at hs
    rw [Option.any_none, if_neg Bool.false_ne_true]
    cases hs with
    | created h _ => exact ⟨hset, s, .created h, hobject⟩
  | some old =>
    rw [hold] at hs
    rw [Option.any_some]
    cases hleft : f.leaves old with
    | true =>
      refine ⟨.refl c, old, .revised old (if_pos hleft).symm, fun k' => ?_⟩
      rw [if_pos rfl]
      split
      · next heq => exact heq ▸ hold
      · rfl
    | false =>
      rw [if_neg Bool.false_ne_true]
      cases hs with
      | revised _ h =>
        refine ⟨hset, s, .revised old ?_, hobject⟩
        rw [h, Cluster.revised, revised, isUnmanaged_of_leaves hleft, hleft]

theorem foldl_settle_sameSettings (f : Feature) (c : Cluster) (ps : List (Key × Object)) :
    c.SameSettings (ps.foldl f.settle c) := by
  induction ps generalizing c with
  | nil => exact .refl c
  | cons p ps ih => exact (settle_cases f c p.1 p.2).1.trans (ih _)

theorem settle_isSome (h : (c.object? k).isSome) (p : Key × Object) : ((f.settle c p).object? k).isSome := by
  obtain ⟨-, s, -, hobject⟩ := settle_cases f c p.1 p.2
  rw [hobject]
  split
  · rfl
  · exact h

/-! ### One key -/

theorem foldl_revised_of_left (h : f.leaves s = true) (xs : List Object) : xs.foldl f.revised s = s := by
  induction xs with
  | nil => rfl
  | cons x xs ih => rw [List.foldl_cons, revised, if_pos h, ih]

theorem foldl_revised_of_free (h : f.leaves s = false) (hxs : ∀ x ∈ xs, f.leaves x = false) :
    xs.foldl f.revised s = xs.foldl replacing s ∧ f.leaves (xs.foldl f.revised s) = false := by
  induction xs generalizing s with
  | nil => exact ⟨rfl, h⟩
  | cons x xs ih =>
    obtain ⟨hx, hxs⟩ := List.forall_mem_cons.mp hxs
    rw [List.foldl_cons, List.foldl_cons, revised, if_neg (by rw [h]; exact Bool.false_ne_true)]
    exact ih ((leaves_replacing s x).trans hx) hxs

/-- Applying the objects changes nothing any more: they come upon an object that is left alone, or upon one that stays
    what it is if all of them are applied to it, and is not left alone in between. -/
def Rests (f : Feature) (s : Object) (xs : List Object) : Prop :=
  f.leaves s = false → (∀ x ∈ xs, f.leaves x = false) ∧ xs.foldl replacing s = s

theorem Rests.foldl_revised (h : f.Rests s xs) : xs.foldl f.revised s = s := by
  cases hleft : f.leaves s with
  | true => exact foldl_revised_of_left hleft xs
  | false =>
    obtain ⟨hfree, hfixed⟩ := h hleft
    exact (foldl_revised_of_free hleft hfree).1.trans hfixed

/-- What became of an object that rested, or of nothing, rests. -/
theorem Settles.rests (hs : f.Settles x s found) (hold : ∀ old, found = some old → f.Rests old xs)
    (hnew : found = none → xs = []) : f.Rests s (xs ++ [x]) := by
  intro hfree
  cases hs with
  | created h =>
    obtain rfl := hnew rfl
    refine ⟨fun y hy => ?_, h⟩
    rw [List.mem_singleton.mp hy, ← leaves_replacing (f := f) s x, h]
    exact hfree
  | revised old h =>
    cases hleft : f.leaves old with
    | true =>
      rw [h, Feature.revised, if_pos hleft, hleft] at hfree
      cases hfree
    | false =>
      obtain ⟨hxs, hfixed⟩ := hold old rfl hleft
      have hrevised : s = replacing old x := h.trans (if_neg (by rw [hleft]; exact Bool.false_ne_true))
      subst hrevised
      rw [leaves_replacing] at hfree
      refine ⟨fun y hy => ?_, ?_⟩
      · rcases List.mem_append.mp hy with hy | hy
        · exact hxs y hy
        · rw [List.mem_singleton.mp hy]
          exact hfree
      · -- Of the two replacements by `x` the earlier one does not count, and without it the others change nothing.
        rw [List.foldl_append, List.foldl_cons, List.foldl_nil, foldl_replacing_skip, hfixed]

/-! ### All keys -/

/-- Where an object is, it is revised by what is to be applied under its key, in turn. -/
theorem foldl_settle_object? (h : (c.object? k).isSome ∨ under k ps = []) :
    (ps.foldl f.settle c).object? k = (c.object? k).map fun s => (under k ps).foldl f.revised s := by
  induction ps generalizing c with
  | nil => cases hk : c.object? k <;> simp [hk, under]
  | cons p ps ih =>
    obtain ⟨-, s, hs, hobject⟩ := settle_cases f c p.1 p.2
    rw [under_cons] at h ⊢
    by_cases hk : p.1 = k
    · subst hk
      rw [if_pos rfl] at h ⊢
      have hthere : (c.object? p.1).isSome := h.resolve_right (List.cons_ne_nil _ _)
      rw [List.foldl_cons, ih (.inl (settle_isSome hthere p)), hobject, if_pos rfl]
      generalize c.object? p.1 = found at hs hthere
      cases hs with
      | revised old h => rw [h]; rfl
      | created _ => cases hthere
    · rw [if_neg hk, List.nil_append] at h ⊢
      have hsame : (f.settle c p).object? k = c.object? k := (hobject k).trans (if_neg (Ne.symm hk))
      rw [List.foldl_cons, ih (by rwa [hsame]), hsame]

/-- What is left alone stays. -/
theorem foldl_settle_of_left (hs : c.object? k = some s) (hleft : f.leaves s = true) (ps : List (Key × Object)) :
    (ps.foldl f.settle c).object? k = some s := by
  rw [foldl_settle_object? (.inl (by rw [hs]; rfl)), hs, Option.map_some, foldl_revised_of_left hleft]

/-- After the objects were applied, each of them is there, and what is there rests. -/
theorem foldl_settle_rests (f : Feature) (c : Cluster) (ps : List (Key × Object)) :
    (∀ p ∈ ps, ((ps.foldl f.settle c).object? p.1).isSome) ∧
      ∀ k s, (ps.foldl f.settle c).object? k = some s → f.Rests s (under k ps) := by
  induction ps using List.reverseRecOn with
  | nil => exact ⟨List.forall_mem_nil _, fun k s _ _ => ⟨List.forall_mem_nil _, rfl⟩⟩
  | append_singleton ps p ih =>
    obtain ⟨hpresent, hrests⟩ := ih
    obtain ⟨-, new, hnew, hobject⟩ := settle_cases f (ps.foldl f.settle c) p.1 p.2
    rw [List.foldl_append, List.foldl_cons, List.foldl_nil]
    refine ⟨fun q hq => ?_, fun k s hs => ?_⟩
    · rcases List.mem_append.mp hq with hq | hq
      · exact settle_isSome (hpresent q hq) p
      · rw [List.mem_singleton.mp hq, hobject, if_pos rfl]
        rfl
    · rw [under_concat]
      by_cases hk : p.1 = k
      · subst hk
        rw [hobject, if_pos rfl] at hs
        cases hs
        rw [if_pos rfl]
        exact hnew.rests (hrests p.1) fun hnone => under_eq_nil hpresent hnone
      · rw [hobject, if_neg (Ne.symm hk)] at hs
        rw [if_neg hk, List.append_nil]
        exact hrests k s hs

/-- Once the objects were applied, applying them again changes nothing under a key that was not touched since. -/
theorem foldl_settle_again (h : c'.object? k = (ps.foldl f.settle c).object? k) :
    (ps.foldl f.settle c').object? k = c'.object? k := by
  obtain ⟨hpresent, hrests⟩ := foldl_settle_rests f c ps
  cases hs : c'.object? k with
  | none => rw [foldl_settle_object? (.inr (under_eq_nil hpresent (h.symm.trans hs))), hs, Option.map_none]
  | some s =>
    rw [foldl_settle_object? (.inl (by rw [hs]; rfl)), hs, Option.map_some,
      (hrests k s (h.symm.trans hs)).foldl_revised]

/-- Where more objects were before, more are after all were applied. -/
theorem foldl_settle_present (h : ∀ k, (c.object? k).isSome → (c'.object? k).isSome) (ps : List (Key × Object)) :
    ∀ k, ((ps.foldl f.settle c).object? k).isSome → ((ps.foldl f.settle c').object? k).isSome := by
  induction ps generalizing c c' with
  | nil => exact h
  | cons p ps ih =>
    refine ih fun k hk => ?_
    obtain ⟨-, s, -, hobject⟩ := settle_cases f c p.1 p.2
    obtain ⟨-, s', -, hobject'⟩ := settle_cases f c' p.1 p.2
    rw [show (f.settle c p).object? k = _ from hobject k] at hk
    rw [show (f.settle c' p).object? k = _ from hobject' k]
    split
    · rfl
    · next hne =>
      rw [if_neg hne] at hk
      exact h k hk

/-! ### Identity and owners -/

/-- What is applied to an object leaves it its UID. -/
theorem foldl_settle_uid (hs : c.object? k = some s) (ps : List (Key × Object)) :
    ∃ s', (ps.foldl f.settle c).object? k = some s' ∧ s'.metadata.uid = s.metadata.uid := by
  have hrevised (xs : List Object) (s : Object) : (xs.foldl f.revised s).metadata.uid = s.metadata.uid := by
    induction xs generalizing s with
    | nil => rfl
    | cons x xs ih =>
      rw [List.foldl_cons, ih, revised]
      split <;> rfl
  refine ⟨_, ?_, hrevised (under k ps) s⟩
  rw [foldl_settle_object? (.inl (by rw [hs]; rfl)), hs, Option.map_some]

/-- However often the tracker was an owner of the object before, it is one once when the feature applies it. -/
theorem owned_once : (f.owned tracker p).metadata.owners.countP (·.uid == tracker.uid) = 1 := by
  have howners : (f.owned tracker p).metadata.owners =
      p.metadata.owners.filter (·.uid != tracker.uid) ++ [tracker] := by
    unfold owned
    cases f.managed <;> rfl
  have hothers : (p.metadata.owners.filter (·.uid != tracker.uid)).countP (·.uid == tracker.uid) = 0 := by
    rw [List.countP_eq_zero]
    intro r hr
    have hne := (List.mem_filter.mp hr).2
    simpa using hne
  rw [howners, List.countP_append, hothers]
  simp

/-- An object that referred to the owner at most once still does, and so does one that was just applied. -/
theorem settle_ownedOnce {q : Key × Object} {uid : String} (hq : q.2.metadata.owners.countP (·.uid == uid) ≤ 1)
    (h : c.OwnedOnce uid k ∨ k = q.1 ∧ (c.object? k).any f.leaves = false) : (f.settle c q).OwnedOnce uid k := by
  obtain ⟨-, s, hs, hobject⟩ := settle_cases f c q.1 q.2
  have hobject : ∀ k', (f.settle c q).object? k' = if k' = q.1 then some s else c.object? k' := hobject
  unfold OwnedOnce
  rw [hobject]
  by_cases hk : k = q.1
  · subst hk
    rw [if_pos rfl]
    refine ⟨s, rfl, ?_⟩
    generalize hfound : c.object? q.1 = found at hs
    cases hs with
    | created hnew => rwa [← hnew]
    | revised old hrevised =>
      rw [hrevised, revised]
      split
      · next hleft =>
        rcases h with ⟨o, ho, honce⟩ | ⟨-, hfree⟩
        · cases hfound.symm.trans ho
          exact honce
        · rw [hfound, Option.any_some, hleft] at hfree
          cases hfree
      · exact hq
  · rw [if_neg hk]
    exact h.resolve_right fun h => hk h.1

end Feature
end PlatformOperator
