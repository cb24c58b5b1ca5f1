import Mathlib.Data.List.Induction
import Mathlib.Data.List.Nodup
import PlatformOperator.Object.Marks
import PlatformOperator.Proofs.Cluster.Calls

/-! Objects that are applied over and over. What an object takes over from the one it replaces is decided member by
    member, so that it does not matter which replacements are put together first, and none counts twice
    (`replacing_assoc`, `replacing_self`, `replacing_skip`). Once a list of objects was applied, applying it again
    changes nothing, even if several of its objects have one key (`foldl_settle_again`). -/

namespace PlatformOperator
namespace Cluster

/-! ### Replacements -/

def status? (o : Object) : Option Json := Dict.get? o.content "status"

/-- The content with a status, unless it has one already. -/
def inheriting (status : Option Json) (content : Dict Json) : Dict Json :=
  match Dict.get? content "status", status with
  | none, some status => Dict.insert "status" status content
  | _, _ => content

theorem get?_inheriting (t : Option Json) (content : Dict Json) :
    Dict.get? (inheriting t content) "status" = (Dict.get? content "status").or t := by
  unfold inheriting
  cases h : Dict.get? content "status" <;> cases t <;> simp [h, Dict.get?_insert]

theorem inheriting_inheriting (t u : Option Json) (content : Dict Json) :
    inheriting t (inheriting u content) = inheriting (u.or t) content := by
  unfold inheriting
  cases h : Dict.get? content "status" <;> cases u <;> cases t <;> simp [h, Dict.get?_insert]

theorem status?_replacing (s x : Object) : status? (replacing s x) = (status? x).or (status? s) :=
  get?_inheriting (status? s) x.content

/-- `x` with what it takes over: identity and lifetime from `s`, and what it is silent about. -/
def overlay (s x : Object) (finalizers : Option (List String)) (status : Option Json) : Object where
  types := x.types
  metadata := { x.metadata with
    uid := s.metadata.uid
    generation := s.metadata.generation
    deletionTimestamp := s.metadata.deletionTimestamp
    finalizers := x.metadata.finalizers.or finalizers }
  content := inheriting status x.content

theorem replacing_eq (s x : Object) : replacing s x = overlay s x s.metadata.finalizers (status? s) := by
  have hfinalizers : (x.metadata.finalizers <|> s.metadata.finalizers) =
      x.metadata.finalizers.or s.metadata.finalizers := by
    cases x.metadata.finalizers <;> rfl
  rw [replacing, hfinalizers]
  rfl

theorem overlay_overlay (s x y : Object) (fs fs' : Option (List String)) (t t' : Option Json) :
    overlay s (overlay x y fs t) fs' t' = overlay s y (fs.or fs') (t.or t') := by
  simp only [overlay, Option.or_assoc, inheriting_inheriting]

/-- Replacing twice gives the latter object what the former one took over. -/
theorem replacing_replacing (s x y : Object) :
    replacing (replacing s x) y =
      overlay s y (x.metadata.finalizers.or s.metadata.finalizers) ((status? x).or (status? s)) := by
  rw [replacing_eq, status?_replacing, replacing_eq]
  rfl

theorem replacing_assoc (s x y : Object) : replacing (replacing s x) y = replacing s (replacing x y) := by
  rw [replacing_replacing, replacing_eq s, replacing_eq x, overlay_overlay]

theorem replacing_self (x : Object) : replacing x x = x := by
  have hcontent : inheriting (status? x) x.content = x.content := by
    unfold inheriting status?
    cases Dict.get? x.content "status" <;> rfl
  rw [replacing_eq, overlay, hcontent, Option.or_self]

/-- UID and generation of what is replaced stay. -/
theorem replacing_identified (x : Object) (uid : Option String) (generation : Option Int) :
    let s := x.mapMeta fun m => { m with uid, generation }
    replacing s x = s := by
  intro s
  have h : replacing s x = (replacing x x).mapMeta fun m => { m with uid, generation } := rfl
  rw [h, replacing_self]

/-- Only the last replacement by an object counts. -/
theorem replacing_skip (s x y : Object) :
    replacing (replacing (replacing s x) y) x = replacing (replacing s y) x := by
  have hor {α : Type} (a b c : Option α) : a.or (b.or (a.or c)) = a.or (b.or c) := by cases a <;> simp
  have hstatus (t : Option Json) : inheriting ((status? y).or ((status? x).or t)) x.content =
      inheriting ((status? y).or t) x.content := by
    unfold inheriting status?
    cases Dict.get? x.content "status" <;> simp
  rw [replacing_replacing (replacing s x), replacing_replacing s, status?_replacing, replacing_eq]
  simp only [overlay, hor, hstatus]

/-- All replacements by an object but the last one may be left out. -/
theorem foldl_replacing_skip (s x : Object) (xs : List Object) :
    replacing (xs.foldl replacing (replacing s x)) x = replacing (xs.foldl replacing s) x := by
  induction xs generalizing s with
  | nil => rw [List.foldl_nil, List.foldl_nil, replacing_assoc, replacing_self]
  | cons y xs ih =>
    rw [List.foldl_cons, List.foldl_cons, ← ih, replacing_skip, ih]

/-- An object that is silent about its status has that of the one it replaces; the rest is its own. -/
theorem apply_content {c c' : Cluster} {r : ApiResource} {o o' : Object} (h : c.apply r o = .ok (o', c')) :
    (∀ k, k ≠ "status" → Dict.get? o'.content k = Dict.get? o.content k) ∧
      status? o' = (status? o).or ((c.object? (o.keyIn r)).bind status?) := by
  rcases apply_cases h with ⟨old, hold, rfl, -⟩ | ⟨hnone, rfl, -⟩
  · rw [status?_replacing, hold]
    refine ⟨fun k hk => ?_, rfl⟩
    rw [replacing_eq]
    show Dict.get? (inheriting _ o.content) k = _
    unfold inheriting
    cases Dict.get? o.content "status" <;> cases status? old <;> simp [Dict.get?_insert, hk]
  · rw [hnone]
    refine ⟨fun k _ => ?_, ?_⟩ <;> cases huid : o.metadata.uid <;> simp [withUid, huid, Object.mapMeta, status?]

/-! ### Applying what is not opted out -/

/-- The object under a key after another one was applied to it: opted out, it stays. -/
def revised (s x : Object) : Object := if s.metadata.isUnmanaged then s else replacing s x

/-- Applies an object under a key, unless the one that is there was opted out. -/
def settle (c : Cluster) (p : Key × Object) : Cluster :=
  match c.object? p.1 with
  | some s => if s.metadata.isUnmanaged then c else c.put p.1 (replacing s p.2)
  | none =>
    let (o, c) := c.withUid p.2
    c.put p.1 (o.mapMeta fun m => { m with generation := some (m.generation.getD 1) })

/-- The objects among the pairs that are to be applied under the key. -/
def under (k : Key) (ps : List (Key × Object)) : List Object := (ps.filter (·.1 = k)).map (·.2)

theorem under_cons (k : Key) (p : Key × Object) (ps : List (Key × Object)) :
    under k (p :: ps) = (if p.1 = k then [p.2] else []) ++ under k ps := by
  rw [under, List.filter_cons, under]
  by_cases h : p.1 = k <;> simp [h]

theorem under_concat (k : Key) (ps : List (Key × Object)) (p : Key × Object) :
    under k (ps ++ [p]) = under k ps ++ if p.1 = k then [p.2] else [] := by
  rw [under, List.filter_append, List.map_append, under]
  by_cases h : p.1 = k <;> simp [h]

section
variable {c c' : Cluster} {k k' : Key} {s x x' : Object} {xs : List Object} {ps : List (Key × Object)}

/-- What an object is after `x` was applied to it, or to nothing: revised, or new, and then as applying `x` again
    leaves it. -/
inductive Settles (x s : Object) : Option Object → Prop where
  | revised (old : Object) (h : s = Cluster.revised old x) : Settles x s (some old)
  | created (h : replacing s x = s) (managed : s.metadata.isUnmanaged = x.metadata.isUnmanaged) : Settles x s none

theorem settle_cases (c : Cluster) (k : Key) (x : Object) :
    c.SameSettings (c.settle (k, x)) ∧ ((c.object? k).isSome → (c.settle (k, x)).uids = c.uids) ∧
      ∃ s, Settles x s (c.object? k) ∧
        ∀ k', (c.settle (k, x)).object? k' = if k' = k then some s else c.object? k' := by
  rw [settle]
  cases hk : c.object? k with
  | some old =>
    dsimp only
    split
    · next hunmanaged =>
      refine ⟨.refl c, fun _ => rfl, old, .revised old (if_pos hunmanaged).symm, fun k' => ?_⟩
      split
      · next heq => exact heq ▸ hk
      · rfl
    · next hmanaged =>
      exact ⟨⟨rfl, rfl, rfl, rfl⟩, fun _ => rfl, _, .revised old (if_neg hmanaged).symm, fun k' => object?_put k k' _ c⟩
  | none =>
    dsimp only
    cases huid : x.metadata.uid with
    | none =>
      simp only [withUid, huid]
      refine ⟨⟨rfl, rfl, rfl, rfl⟩, fun h => (by cases h), _, .created ?_ ?_, fun k' => object?_put k k' _ _⟩
      · exact replacing_identified x (some ("uid-" ++ toString (c.uids + 1))) (some (x.metadata.generation.getD 1))
      · rfl
    | some uid =>
      simp only [withUid, huid]
      refine ⟨⟨rfl, rfl, rfl, rfl⟩, fun h => (by cases h), _, .created ?_ ?_, fun k' => object?_put k k' _ _⟩
      · exact replacing_identified x x.metadata.uid (some (x.metadata.generation.getD 1))
      · rfl

theorem settle_isSome (h : (c.object? k').isSome ∨ k' = k) (x : Object) : ((c.settle (k, x)).object? k').isSome := by
  obtain ⟨-, -, s, -, hobject⟩ := settle_cases c k x
  rw [hobject]
  split
  · rfl
  · next hne => exact h.resolve_right hne

/-- What was managed, or not there, is after `x` was applied as applying `x` again leaves it. -/
theorem Settles.replacing_self {found : Option Object} (h : Settles x s found)
    (hmanaged : ∀ old, found = some old → old.metadata.isUnmanaged = false) : replacing s x = s := by
  cases h with
  | revised old h =>
    have hrevised : s = replacing old x := h.trans (if_neg (by rw [hmanaged old rfl]; exact Bool.false_ne_true))
    rw [hrevised, replacing_assoc, Cluster.replacing_self]
  | created h _ => exact h

theorem settle_of_unmanaged (hs : c.object? k = some s) (h : s.metadata.isUnmanaged = true) (x : Object) :
    c.settle (k, x) = c := by
  rw [settle]
  simp only [hs, h, if_true]

/-- An object that was opted out stays, whatever is settled. -/
theorem settle_object?_of_unmanaged (hs : c.object? k = some s) (h : s.metadata.isUnmanaged = true) (p : Key × Object) :
    (c.settle p).object? k = some s := by
  by_cases hk : k = p.1
  · subst hk
    rw [settle_of_unmanaged hs h]
    exact hs
  · obtain ⟨-, -, _, -, hobject⟩ := settle_cases c p.1 p.2
    rw [hobject, if_neg hk]
    exact hs

/-- A call that applies an object settles it where none is opted out, and tells what became of it. -/
theorem settle_of_apply {r : ApiResource} {o o' : Object} (h : c.apply r o = .ok (o', c'))
    (hmanaged : ∀ old, c.object? (o.keyIn r) = some old → old.metadata.isUnmanaged = false) :
    let x := { o with types := some (o.types.getD ⟨r.apiVersion, r.kind⟩) }
    c' = c.settle (o.keyIn r, x) ∧ (c.settle (o.keyIn r, x)).object? (o.keyIn r) = some o' ∧ replacing o' x = o' := by
  intro x
  have hsettle : c' = c.settle (o.keyIn r, x) := by
    obtain ⟨old, hold, rfl, rfl⟩ | ⟨hnone, rfl, rfl⟩ := apply_cases h
    · rw [settle]
      simp only [hold, hmanaged old hold, Bool.false_eq_true, if_false]
      rfl
    · rw [settle]
      simp only [hnone]
      rfl
  obtain ⟨-, happlied, -⟩ := apply_ok h
  have hobject : (c.settle (o.keyIn r, x)).object? (o.keyIn r) = some o' := by
    rw [← hsettle, happlied, if_pos rfl]
  obtain ⟨-, -, s, hs, hsettled⟩ := settle_cases c (o.keyIn r) x
  rw [hsettled, if_pos rfl] at hobject
  cases hobject
  exact ⟨hsettle, by rw [hsettled, if_pos rfl], hs.replacing_self hmanaged⟩

/-! ### Applying it again -/

theorem foldl_revised_of_unmanaged (h : s.metadata.isUnmanaged = true) : xs.foldl revised s = s := by
  induction xs with
  | nil => rfl
  | cons x xs ih => rw [List.foldl_cons, revised, if_pos h, ih]

theorem foldl_revised_of_managed (h : s.metadata.isUnmanaged = false) (hxs : ∀ x ∈ xs, x.metadata.isUnmanaged = false) :
    xs.foldl revised s = xs.foldl replacing s := by
  induction xs generalizing s with
  | nil => rfl
  | cons x xs ih =>
    obtain ⟨hx, hxs⟩ := List.forall_mem_cons.mp hxs
    rw [List.foldl_cons, List.foldl_cons, revised, if_neg (by rw [h]; exact Bool.false_ne_true)]
    exact ih hx hxs

/-- Where all keys are taken, every object is revised by what is to be applied under its key, in turn. -/
theorem foldl_settle_of_present (h : ∀ p ∈ ps, (c.object? p.1).isSome) :
    c.SameSettings (ps.foldl settle c) ∧ (ps.foldl settle c).uids = c.uids ∧
      ∀ k, (ps.foldl settle c).object? k = (c.object? k).map fun s => (under k ps).foldl revised s := by
  induction ps generalizing c with
  | nil =>
    refine ⟨.refl c, rfl, fun k => ?_⟩
    rw [List.foldl_nil]
    cases c.object? k <;> rfl
  | cons p ps ih =>
    obtain ⟨hp, hps⟩ := List.forall_mem_cons.mp h
    obtain ⟨hset, huids, s, hs, hobject⟩ := settle_cases c p.1 p.2
    obtain ⟨hset', huids', hobject'⟩ := ih fun q hq => settle_isSome (.inl (hps q hq)) p.2
    refine ⟨hset.trans hset', huids'.trans (huids hp), fun k => ?_⟩
    rw [List.foldl_cons, hobject', hobject, under_cons]
    by_cases hk : k = p.1
    · rw [if_pos hk, if_pos hk.symm, hk]
      generalize c.object? p.1 = found at hs hp
      cases hs with
      | revised old h => rw [h]; rfl
      | created _ _ => cases hp
    · rw [if_neg hk, if_neg (Ne.symm hk)]
      rfl

/-- The managed object `s` stays what it is if all of `xs` are applied to it, one after the other. -/
structure Keeps (s : Object) (xs : List Object) : Prop where
  managed : ∀ x ∈ xs, x.metadata.isUnmanaged = false
  fixed : xs.foldl replacing s = s

theorem Keeps.nil (s : Object) : Keeps s [] := ⟨List.forall_mem_nil _, rfl⟩

/-- After `x` was applied, it may be applied once more behind the others, or what became of it. -/
theorem Keeps.replacing (h : Keeps s xs) (hmanaged : x.metadata.isUnmanaged = false)
    (hx' : x' = x ∨ x'.metadata.isUnmanaged = false ∧ ∀ a, replacing a x' = replacing a (replacing s x)) :
    Keeps (replacing s x) (xs ++ [x']) where
  managed y hy := by
    obtain hy | hy := List.mem_append.mp hy
    · exact h.managed y hy
    · cases List.mem_singleton.mp hy
      obtain rfl | ⟨hx', -⟩ := hx'
      · exact hmanaged
      · exact hx'
  fixed := by
    rw [List.foldl_append, List.foldl_cons, List.foldl_nil]
    obtain rfl | ⟨-, hx'⟩ := hx'
    · rw [foldl_replacing_skip, h.fixed]
    · -- All of them leave `s` as it is, so that it may stand once more behind them.
      have hskip := foldl_replacing_skip s x (xs ++ [s])
      rw [List.foldl_append, List.foldl_append, h.fixed, List.foldl_cons, List.foldl_cons, List.foldl_nil,
        List.foldl_nil, replacing_self] at hskip
      rw [hx', ← replacing_assoc, hskip]

/-- Applying the objects once more would leave all objects as they are. -/
structure Absorbs (c : Cluster) (ps : List (Key × Object)) : Prop where
  present : ∀ p ∈ ps, (c.object? p.1).isSome
  keeps : ∀ k s, c.object? k = some s → s.metadata.isUnmanaged = false → Keeps s (under k ps)

theorem Absorbs.foldl_settle (h : c.Absorbs ps) : ps.foldl settle c = c := by
  obtain ⟨hset, huids, hobject⟩ := foldl_settle_of_present h.present
  refine ext_object? hset huids fun k => ?_
  rw [hobject]
  cases hs : c.object? k with
  | none => rfl
  | some s =>
    refine congrArg some ?_
    dsimp only
    cases hmanaged : s.metadata.isUnmanaged with
    | true => exact foldl_revised_of_unmanaged hmanaged
    | false =>
      have hkeeps := h.keeps k s hs hmanaged
      rw [foldl_revised_of_managed hmanaged hkeeps.managed, hkeeps.fixed]

theorem absorbs_nil (c : Cluster) : c.Absorbs [] where
  present _ hp := absurd hp List.not_mem_nil
  keeps _ s _ _ := .nil s

/-- What may be applied again after `x` was applied under the key: `x`, or what became of it there. -/
def Repeats (c : Cluster) (k : Key) (x x' : Object) : Prop :=
  x' = x ∨ ∃ s, (c.settle (k, x)).object? k = some s ∧ x'.metadata.isUnmanaged = s.metadata.isUnmanaged ∧
    ∀ a, replacing a x' = replacing a s

theorem under_eq_nil (h : ∀ p ∈ ps, (c.object? p.1).isSome) (hnone : c.object? k = none) : under k ps = [] := by
  rw [under, List.map_eq_nil_iff, List.filter_eq_nil_iff]
  intro p hp heq
  have hsome := h p hp
  rw [of_decide_eq_true heq, hnone] at hsome
  cases hsome

/-- What became of `x`, if it is managed, stays what it is if `x'` is applied behind the others. -/
theorem Absorbs.keeps_settled (h : c.Absorbs ps) (hs : Settles x s (c.object? k)) (hlive : s.metadata.isUnmanaged = false)
    (hx' : x' = x ∨ x'.metadata.isUnmanaged = false ∧ ∀ a, replacing a x' = replacing a s) :
    Keeps s (under k ps ++ [x']) := by
  cases hold : c.object? k with
  | some old =>
    rw [hold] at hs
    cases hs with
    | revised _ hrevised =>
      cases hmanaged : old.metadata.isUnmanaged with
      | true =>
        rw [hrevised, revised, if_pos hmanaged, hmanaged] at hlive
        cases hlive
      | false =>
        have hrevised : s = replacing old x := hrevised.trans (if_neg (by rw [hmanaged]; exact Bool.false_ne_true))
        subst hrevised
        exact (h.keeps k old hold hmanaged).replacing hlive hx'
  | none =>
    rw [hold] at hs
    rw [under_eq_nil h.present hold]
    cases hs with
    | created hnew hmanaged =>
      have hkeeps : Keeps (replacing s x) ([] ++ [x']) :=
        (Keeps.nil s).replacing (hmanaged.symm.trans hlive) (by rwa [hnew])
      rwa [hnew] at hkeeps

/-- One more object is applied. -/
theorem Absorbs.settle (h : c.Absorbs ps) (hx' : c.Repeats k x x') : (c.settle (k, x)).Absorbs (ps ++ [(k, x')]) where
  present p hp := by
    obtain hp | hp := List.mem_append.mp hp
    · exact settle_isSome (.inl (h.present p hp)) x
    · cases List.mem_singleton.mp hp
      exact settle_isSome (.inr rfl) x
  keeps k₁ s hs hlive := by
    obtain ⟨-, -, new, hnew, hobject⟩ := settle_cases c k x
    rw [under_concat]
    by_cases hk : k = k₁
    · subst hk
      rw [hobject, if_pos rfl] at hs
      cases hs
      rw [if_pos rfl]
      refine h.keeps_settled hnew hlive (hx'.imp_right ?_)
      rintro ⟨s', hs', hmanaged, hsame⟩
      rw [hobject, if_pos rfl] at hs'
      cases hs'
      exact ⟨hmanaged.trans hlive, hsame⟩
    · rw [hobject, if_neg (Ne.symm hk)] at hs
      rw [if_neg hk, List.append_nil]
      exact h.keeps k₁ s hs hlive

theorem foldl_settle_sameSettings (c : Cluster) (ps : List (Key × Object)) : c.SameSettings (ps.foldl settle c) := by
  induction ps generalizing c with
  | nil => exact .refl c
  | cons p ps ih => exact (settle_cases c p.1 p.2).1.trans (ih _)

/-- What was applied may be applied again. -/
theorem foldl_settle_absorbs (c : Cluster) (ps : List (Key × Object)) : (ps.foldl settle c).Absorbs ps := by
  induction ps using List.reverseRecOn with
  | nil => exact absorbs_nil c
  | append_singleton ps p ih =>
    rw [List.foldl_append]
    exact ih.settle (.inl rfl)

theorem foldl_settle_again (c : Cluster) (ps : List (Key × Object)) :
    ps.foldl settle (ps.foldl settle c) = ps.foldl settle c := (foldl_settle_absorbs c ps).foldl_settle

/-- After some of the objects were applied, applying all of them leads to the same. -/
theorem foldl_settle_of_prefix (c : Cluster) (ps qs : List (Key × Object)) :
    (ps ++ qs).foldl settle (ps.foldl settle c) = (ps ++ qs).foldl settle c := by
  rw [List.foldl_append, List.foldl_append, foldl_settle_again]

end
end Cluster
end PlatformOperator
