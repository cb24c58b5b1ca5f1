import PlatformOperator.Proofs.Cluster.Identity
import PlatformOperator.Proofs.Feature.Cleanup

/-! Features are kept apart by the names of their trackers. As long as these differ, what a feature applied is owned
    by its tracker alone, so that no deletion of another tracker reaches it. But the namespace and the name of a
    feature are joined by a dash that either may contain, so that two features can share a tracker, and then the
    cleanup of one removes both. -/

namespace PlatformOperator
open Op Relation

/-! ### Names of trackers -/

namespace Tracker
variable {a b x y : String}

/-- The namespace `b` is `a` with a part added that `x` has before `y`. -/
def Straddles (a x b y : String) : Prop := ∃ s, b = a ++ "-" ++ s ∧ x = s ++ "-" ++ y

/-- The names of two trackers are the same if one feature's namespace takes a part of the other one's name. -/
theorem nameFor_eq_iff : nameFor a x = nameFor b y ↔ a = b ∧ x = y ∨ Straddles a x b y ∨ Straddles b y a x := by
  have hsplit (a x b y : String) : (∃ l, b.toList = a.toList ++ l ∧ '-' :: x.toList = l ++ '-' :: y.toList) ↔
      a = b ∧ x = y ∨ Straddles a x b y := by
    constructor
    · rintro ⟨_ | ⟨d, s⟩, hb, hx⟩
      · simp only [List.append_nil, List.nil_append, List.cons.injEq, true_and] at hb hx
        exact .inl ⟨String.toList_injective hb.symm, String.toList_injective hx⟩
      · simp only [List.cons_append, List.cons.injEq] at hx
        obtain ⟨rfl, hx⟩ := hx
        refine .inr ⟨String.ofList s, String.toList_injective ?_, String.toList_injective ?_⟩
        · simpa using hb
        · simpa using hx
    · rintro (⟨rfl, rfl⟩ | ⟨s, rfl, rfl⟩)
      · exact ⟨[], by simp, by simp⟩
      · exact ⟨'-' :: s.toList, by simp, by simp⟩
  have hlists : nameFor a x = nameFor b y ↔ a.toList ++ '-' :: x.toList = b.toList ++ '-' :: y.toList := by
    rw [← String.toList_inj]
    simp [nameFor]
  rw [hlists, List.append_eq_append_iff, hsplit, hsplit b y a x]
  constructor
  · rintro ((h | h) | (⟨hb, hy⟩ | h))
    · exact .inl h
    · exact .inr (.inl h)
    · exact .inl ⟨hb.symm, hy.symm⟩
    · exact .inr (.inr h)
  · rintro (h | h | h)
    · exact .inl (.inl h)
    · exact .inl (.inr h)
    · exact .inr (.inr h)

end Tracker

/-! ### Moored objects -/

namespace Cluster
variable {c c' : Cluster} {k k' : Key} {ks ks' T : Key → Prop} {uids : String → Prop} {o : Object}
  {policy : Propagation}

/-- The owners of the objects at `ks` have UIDs among `uids`, and these are no other objects'. -/
structure Moored (ks : Key → Prop) (uids : String → Prop) (c : Cluster) : Prop where
  sole : c.Sole ks uids
  owned : ∀ k o, ks k → c.object? k = some o → ∀ r ∈ o.metadata.owners, uids r.uid

theorem moored_of_none (ks : Key → Prop) (h : ∀ k, ¬ks k) (c : Cluster) : c.Moored ks fun _ => False :=
  ⟨⟨fun _ _ => False.elim, fun _ => False.elim⟩, fun k _ hk => absurd hk (h k)⟩

/-- An object may be replaced, and moored, by one with such owners. -/
theorem Moored.replaced (h : c.Moored ks uids) (hsole : c'.Sole ks' uids)
    (hobject : ∀ k', c'.object? k' = if k' = k then some o else c.object? k') (hks : ∀ k', ks' k' → k' ≠ k → ks k')
    (howned : ks' k → ∀ r ∈ o.metadata.owners, uids r.uid) : c'.Moored ks' uids where
  sole := hsole
  owned k' o' hk' ho' := by
    rw [hobject] at ho'
    split at ho'
    · rename_i heq
      cases ho'
      exact howned (heq ▸ hk')
    · rename_i hne
      exact h.owned k' o' (hks k' hk' hne) ho'

theorem Moored.sweeps (h : c.Moored ks uids) (hs : c.Sweeps policy T c') (hsole : c'.Sole ks uids) :
    c'.Moored ks uids where
  sole := hsole
  owned k o' hk ho' := by
    obtain ⟨o, ho, hpersists⟩ := hs.before ho'
    rw [hpersists.same.2.1]
    exact h.owned k o hk ho

/-- No other object owns what is moored, not even through others. -/
theorem Moored.unreached (h : c.Moored ks uids) (hk' : ¬ks k') (hk : ks k) : ¬ReflTransGen c.Owns k' k := by
  intro hchain
  induction hchain with
  | refl => exact hk' hk
  | tail _ howns ih =>
    obtain ⟨o, o', ho, ho', r, hr, huid⟩ := howns
    exact ih (h.sole.place _ r.uid (h.owned _ o' hk ho' r hr) ⟨o, ho, huid⟩)

/-- Deletions elsewhere leave alone what is moored. -/
theorem Moored.unchanged (h : c.Moored ks uids) (hs : c.Sweeps policy T c') (hT : ∀ k, T k → ¬ks k) (hk : ks k) :
    c'.object? k = c.object? k :=
  hs.unchanged fun k' hk' => h.unreached (hT k' hk') hk

/-- What is moored in `c₀` is in `c` as it was there. -/
structure Unmoved (c₀ : Cluster) (ks : Key → Prop) (uids : String → Prop) (c : Cluster) : Prop where
  sole : c.Sole ks uids
  same : ∀ k, ks k → c.object? k = c₀.object? k

theorem Unmoved.moored (h : Unmoved c ks uids c') (hmoored : c.Moored ks uids) : c'.Moored ks uids :=
  ⟨h.sole, fun k o hk ho => hmoored.owned k o hk ((h.same k hk).symm.trans ho)⟩

/-- Another object may be replaced. -/
theorem Unmoved.replaced {c₀ : Cluster} (h : Unmoved c₀ ks uids c) (hsole : c'.Sole ks uids)
    (hobject : ∀ k', c'.object? k' = if k' = k then some o else c.object? k') (hk : ¬ks k) :
    Unmoved c₀ ks uids c' where
  sole := hsole
  same k' hk' := by
    rw [hobject, if_neg (by rintro rfl; exact hk hk')]
    exact h.same k' hk'

end Cluster

namespace Feature
open Cluster
variable {f g : Feature} {tracker : OwnerReference} {m : Manifest} {x p : Object} {r : ApiResource} {w w₁ w' : World}
  {k : Key} {keys ks roots : Key → Prop} {uids : String → Prop} {previous : Option TrackerStatus}
  {Q Q' : Cluster → Prop}

theorem Keeps.and (h : f.Keeps Q) (h' : f.Keeps Q') : f.Keeps fun c => Q c ∧ Q' c := by
  have hand {ε α : Type} {x : Op ε α} (h : x.Preserves Q) (h' : x.Preserves Q') :
      x.Preserves fun c => Q c ∧ Q' c := fun w hw =>
    ⟨(h w ⟨hw.quiet, hw.cluster.1⟩).quiet, (h w ⟨hw.quiet, hw.cluster.1⟩).cluster,
      (h' w ⟨hw.quiet, hw.cluster.2⟩).cluster⟩
  exact ⟨fun hook hh => hand (h.preconditions hook hh) (h'.preconditions hook hh),
    fun d hd => hand (h.data d hd) (h'.data d hd), fun hook hh => hand (h.resources hook hh) (h'.resources hook hh),
    fun hook hh => hand (h.postconditions hook hh) (h'.postconditions hook hh)⟩

/-- The steps that the feature is given leave the objects at the keys alone, and UIDs apart and in their places. -/
structure Civil (f : Feature) (keys : Key → Prop) : Prop extends Spares f keys where
  apart : f.Keeps Apart
  sole : ∀ ps uids, f.Keeps (Sole ps uids)
  cleanups : ∀ hook ∈ f.cleanups, Op.Spares keys (hook f.identity)
  cleanupsSole : ∀ ps uids, ∀ hook ∈ f.cleanups, (hook f.identity).Preserves (Sole ps uids)

/-- The objects of the feature's manifests name neither owners nor UIDs. -/
def Bare (f : Feature) : Prop :=
  ∀ m ∈ f.manifests, ∀ data os, m.process data = .ok os →
    ∀ x ∈ os, x.metadata.ownerReferences = none ∧ x.metadata.uid = none

theorem Bare.of_visits (h : f.Bare) (hvisits : f.Visits w tracker m x w₁) :
    x.metadata.ownerReferences = none ∧ x.metadata.uid = none := by
  obtain ⟨hm, data, os, hos, hx⟩ := hvisits.mem
  exact h m hm data os hos x hx

/-! ### An application moors what it applies -/

theorem owners_owned (hp : p.metadata.ownerReferences = none) : (f.owned tracker p).metadata.owners = [tracker] := by
  unfold owned
  cases f.managed <;> simp [Object.mapMeta, ObjectMeta.owners, ObjectMeta.annotate, hp]

theorem uid_owned : (f.owned tracker p).metadata.uid = p.metadata.uid := by
  unfold owned
  cases f.managed <;> rfl

/-- What is applied is moored if its tracker is. -/
theorem moored_of_applied {c c' : Cluster} {o' : Object} (h : c.Moored ks uids) (htracker : uids tracker.uid)
    (hp : p.metadata.ownerReferences = none ∧ p.metadata.uid = none)
    (happly : c.apply r (f.owned tracker p) = .ok (o', c')) : c'.Moored (fun k => ks k ∨ k = p.keyIn r) uids := by
  obtain ⟨-, hobject, -, -, -, -, -, howners⟩ := Cluster.apply_ok happly
  have hkey : (f.owned tracker p).keyIn r = p.keyIn r := owned_keyIn
  have hsole : c'.Sole ks uids := h.sole.apply happly (uid_owned.trans hp.2)
  rw [hkey] at hobject
  refine h.replaced (hsole.widen fun _ => .inl) hobject (fun _ hk hne => hk.resolve_right hne) fun _ o ho => ?_
  have hsame : o'.metadata.owners = (f.owned tracker p).metadata.owners := by
    rw [ObjectMeta.owners, howners, ObjectMeta.owners]
  rw [hsame, owners_owned hp.1, List.mem_singleton] at ho
  exact ho ▸ htracker

/-- Every step of an application keeps moored what is. -/
theorem applyObject_moored (hx : x.metadata.ownerReferences = none ∧ x.metadata.uid = none)
    (htracker : uids tracker.uid) (hw : w.Within (Moored ks uids)) :
    (f.applyObject tracker m x w).2.Within (Moored ks uids) := by
  rcases hstep : f.applyObject tracker m x w with ⟨result, w'⟩
  obtain ⟨quiet, hdoes⟩ := applyObject_does hw.quiet hstep
  refine ⟨quiet, ?_⟩
  cases hdoes with
  | nothing hsame => exact hsame ▸ hw.cluster
  | applied r p o' _ hplaces _ happly =>
    obtain ⟨_, scope, -, -, rfl⟩ := hplaces
    have hmoored := moored_of_applied (p := Deploy.placed scope f.targetNamespace x) hw.cluster htracker hx happly
    exact ⟨hw.cluster.sole.apply happly (uid_owned.trans hx.2), fun k o hk => hmoored.owned k o (.inl hk)⟩
  | merged r p o' _ hplaces hmerge =>
    obtain ⟨_, scope, -, -, rfl⟩ := hplaces
    obtain ⟨old, hold, hread, hs⟩ := Cluster.mergePatch_ok hmerge
    obtain ⟨hput, hmints⟩ := Cluster.mergePatch_mintsNone hmerge hx.2
    refine Moored.sweeps (hw.cluster.replaced (hput.sole hw.cluster.sole)
      (fun k' => Cluster.object?_put _ k' o' w.cluster) (fun _ hk _ => hk) fun hk => ?_) hs
      (hmints.sole hw.cluster.sole)
    rw [Object.owners_of_merge hread hx.1]
    exact hw.cluster.owned _ old hk hold

theorem applies_moored (hx : x.metadata.ownerReferences = none ∧ x.metadata.uid = none)
    (htracker : uids tracker.uid) (hw : w.Within (Moored ks uids)) (happlies : f.Applies tracker m x w k) :
    (f.applyObject tracker m x w).2.Within (Moored (fun k' => ks k' ∨ k' = k) uids) := by
  obtain ⟨r, p, o', w', hstep, quiet', ⟨_, scope, -, -, rfl⟩, rfl, happly⟩ := happlies.does hw.quiet
  rw [hstep]
  exact ⟨quiet', moored_of_applied hw.cluster htracker hx happly⟩

theorem put_content_mintsNone {c : Cluster} {o : Object} {content : Dict Json} (ho : c.object? k = some o) :
    MintsNone c (c.put k { o with content := content }) :=
  .put fun _ huid => ⟨o, ho, huid⟩

theorem updateTrackerStatus_moored (status : TrackerStatus) :
    (f.updateTrackerStatus status).Preserves (Moored ks uids) :=
  updateTrackerStatus_preserves (fun c o _ ho h => h.replaced ((put_content_mintsNone ho).sole h.sole)
    (fun k' => Cluster.object?_put _ k' _ c) (fun _ hk _ => hk) fun hk => h.owned _ o hk ho) status

/-- A tracker whose owner is moored is moored once it is ensured. -/
theorem ensureTracker_moored (apart : w.cluster.Apart) (quiet : w.Quiet) (hmoored : w.cluster.Moored roots uids)
    (howner : ∀ r ∈ f.owner, uids r.uid) (h : f.ensureTracker w = (.ok (tracker, previous), w₁)) :
    (f.ensureTracker w).2.Within
      (Moored (fun k => roots k ∨ k = f.trackerKey) fun uid => uids uid ∨ uid = tracker.uid) := by
  obtain ⟨o, happly, ho, huid⟩ := ensureTracker_ok quiet h
  have quiet₁ := (ensureTracker_does (f := f) quiet).1
  rw [h] at quiet₁ ⊢
  have hsole := (hmoored.sole.apply happly rfl).union (apart.apply happly rfl _ _ ⟨o, ho, huid⟩)
  have howners : o.metadata.ownerReferences = f.owner.map ([·]) := (Cluster.apply_ok happly).2.2.2.2.2.2.2
  refine ⟨quiet₁, hsole, fun k o' hk ho' r hr => ?_⟩
  by_cases heq : k = f.trackerKey
  · subst heq
    cases ho.symm.trans ho'
    rw [ObjectMeta.owners, howners] at hr
    cases hf : f.owner with
    | none =>
      rw [hf] at hr
      cases hr
    | some owner =>
      rw [hf] at hr
      rw [List.mem_singleton.mp hr]
      exact .inl (howner owner hf)
  · rw [(Cluster.apply_ok happly).2.1, newTracker_keyIn, if_neg heq] at ho'
    exact .inl (hmoored.owned k o' (hk.resolve_right heq) ho' r hr)

/-! ### Whole applications -/

theorem Civil.keeps_local {P : Cluster → Prop} (civil : f.Civil keys)
    (hP : ∀ c c' : Cluster, (∀ k, keys k → c'.object? k = c.object? k) → P c → P c') :
    f.Keeps fun c => c.Sole ks uids ∧ P c :=
  (civil.sole ks uids).and (civil.toSpares.keeps hP)

theorem Civil.keeps_moored (civil : f.Civil keys) (hkeys : ∀ k, ks k → keys k) : f.Keeps (Moored ks uids) := by
  have heq : Moored ks uids = fun c => c.Sole ks uids ∧ ∀ k o, ks k → c.object? k = some o →
      ∀ r ∈ o.metadata.owners, uids r.uid :=
    funext fun c => propext ⟨fun h => ⟨h.sole, h.owned⟩, fun h => ⟨h.1, h.2⟩⟩
  rw [heq]
  exact civil.keeps_local fun c c' hsame h k o hk ho => h k o hk ((hsame k (hkeys k hk)).symm.trans ho)

theorem Civil.keeps_unmoved {c₀ : Cluster} (civil : f.Civil keys) (hkeys : ∀ k, ks k → keys k) :
    f.Keeps (Unmoved c₀ ks uids) := by
  have heq : Unmoved c₀ ks uids = fun c => c.Sole ks uids ∧ ∀ k, ks k → c.object? k = c₀.object? k :=
    funext fun c => propext ⟨fun h => ⟨h.sole, h.same⟩, fun h => ⟨h.1, h.2⟩⟩
  rw [heq]
  exact civil.keeps_local fun c c' hsame h k hk => (hsame k (hkeys k hk)).trans (h k hk)

/-- What the application made under the tracker: the objects at the keys that its manifests applied. -/
def Makes (f : Feature) (keys : Key → Prop) (w : World) (tracker : OwnerReference) (k : Key) : Prop :=
  keys k ∧ ∃ m x w', f.Visits w tracker m x w' ∧ f.Applies tracker m x w' k

/-- Every step gets the tracker that was ensured. -/
theorem Visits.ensured {tracker' : OwnerReference} (h : f.Visits w tracker' m x w')
    (hensure : f.ensureTracker w = (.ok (tracker, previous), w₁)) : tracker' = tracker := by
  obtain ⟨_, _, henter, -⟩ := h
  obtain ⟨_, _, _, _, hensure', -⟩ := enter_eq_ok.mp henter
  cases hensure.symm.trans hensure'
  rfl

/-- The tracker and what the application made under it. -/
def Holding (f : Feature) (keys : Key → Prop) (w : World) (tracker : OwnerReference) (k : Key) : Prop :=
  k = f.trackerKey ∨ f.Makes keys w tracker k

section
variable (civil : f.Civil keys) (bare : f.Bare) (apart : w.cluster.Apart) (quiet : w.Quiet)
  (enabled : f.isEnabled = .ok true)
include civil bare apart quiet enabled

/-- In the end the tracker and all that was applied is moored, if the owner of the tracker is. -/
theorem apply_moored (hT : keys f.trackerKey) (hmoored : w.cluster.Moored roots uids) (hroots : ∀ k, roots k → keys k)
    (howner : ∀ r ∈ f.owner, uids r.uid) (hensure : f.ensureTracker w = (.ok (tracker, previous), w₁)) :
    (f.apply w).2.cluster.Moored (fun k => roots k ∨ f.Holding keys w tracker k)
      fun uid => uids uid ∨ uid = tracker.uid := by
  have hstart := ensureTracker_moored apart quiet hmoored howner hensure
  have hstep {ks : Key → Prop} (tracker' : OwnerReference) (m : Manifest) (x : Object) (w₂ : World)
      (hvisits : f.Visits w tracker' m x w₂) (hw₂ : w₂.Within (Moored ks fun uid => uids uid ∨ uid = tracker.uid)) :
      (f.applyObject tracker' m x w₂).2.Within (Moored ks fun uid => uids uid ∨ uid = tracker.uid) := by
    cases hvisits.ensured hensure
    exact applyObject_moored (bare.of_visits hvisits) (.inr rfl) hw₂
  have hkeys (k : Key) (hk : roots k ∨ k = f.trackerKey) : keys k := hk.elim (hroots k) fun heq => heq ▸ hT
  have htracker := apply_within (civil.keeps_moored hkeys) updateTrackerStatus_moored hstep enabled hstart
  refine ⟨htracker.cluster.sole.widen fun _ hk => hk.imp_right .inl, fun k o hk ho => ?_⟩
  rcases or_assoc.mpr hk with hk | ⟨hk, m, x, w', hvisits, happlies⟩
  · exact htracker.cluster.owned k o hk ho
  · have hw' := hvisits.within (civil.keeps_moored hkeys) updateTrackerStatus_moored hstep hstart
    have hkeys' (k' : Key) (hk' : (roots k' ∨ k' = f.trackerKey) ∨ k' = k) : keys k' :=
      hk'.elim (hkeys k') fun heq => heq ▸ hk
    cases hvisits.ensured hensure
    have hend := hvisits.apply_within (civil.keeps_moored hkeys') updateTrackerStatus_moored hstep enabled
      (applies_moored (bare.of_visits hvisits) (.inr rfl) hw' happlies)
    exact hend.cluster.owned k o (.inr rfl) ho

/-- An application keeps UIDs apart. -/
theorem apply_apart : (f.apply w).2.Within Apart := by
  refine apply_within civil.apart (updateTrackerStatus_preserves fun c o content ho h =>
    (put_content_mintsNone ho).apart h) (fun tracker m x w₁ hvisits hw₁ => ?_) enabled ?_
  · rcases hstep : f.applyObject tracker m x w₁ with ⟨result, w'⟩
    obtain ⟨quiet', hdoes⟩ := applyObject_does hw₁.quiet hstep
    have hx := (bare.of_visits hvisits).2
    refine ⟨quiet', ?_⟩
    cases hdoes with
    | nothing hsame => exact hsame ▸ hw₁.cluster
    | applied r p o' _ hplaces _ happly =>
      obtain ⟨_, scope, -, -, rfl⟩ := hplaces
      exact hw₁.cluster.apply happly (uid_owned.trans hx)
    | merged r p o' _ hplaces hmerge =>
      obtain ⟨_, scope, -, -, rfl⟩ := hplaces
      exact (Cluster.mergePatch_mintsNone hmerge hx).2.apart hw₁.cluster
  · obtain ⟨quiet₁, hsame | ⟨o, happly⟩⟩ := ensureTracker_does (f := f) quiet
    · exact ⟨quiet₁, hsame ▸ apart⟩
    · exact ⟨quiet₁, apart.apply happly rfl⟩

end

/-! ### What others leave alone -/

/-- The application writes at the key, with an object of its manifests. -/
def Addresses (f : Feature) (w : World) (k : Key) : Prop :=
  ∃ tracker m x w' r p, f.Visits w tracker m x w' ∧ f.Places w'.cluster x r p ∧ p.keyIn r = k

theorem Makes.addresses (h : f.Makes keys w tracker k) (spares : f.Spares keys) (quiet : w.Quiet) :
    f.Addresses w k := by
  obtain ⟨-, m, x, w', hvisits, happlies⟩ := h
  obtain ⟨r, p, _, _, -, -, hplaces, hk, -⟩ := happlies.does (hvisits.quiet spares quiet)
  exact ⟨tracker, m, x, w', r, p, hvisits, hplaces, hk.symm⟩

/-- A step at another key leaves alone what is moored. -/
theorem applyObject_unmoved {c₀ : Cluster} (hmoored : c₀.Moored ks uids) (hx : x.metadata.uid = none)
    (haddress : ∀ r p, f.Places w.cluster x r p → ¬ks (p.keyIn r)) (hw : w.Within (Unmoved c₀ ks uids)) :
    (f.applyObject tracker m x w).2.Within (Unmoved c₀ ks uids) := by
  rcases hstep : f.applyObject tracker m x w with ⟨result, w'⟩
  obtain ⟨quiet, hdoes⟩ := applyObject_does hw.quiet hstep
  refine ⟨quiet, ?_⟩
  cases hdoes with
  | nothing hsame => exact hsame ▸ hw.cluster
  | applied r p o' _ hplaces _ happly =>
    have helse := haddress r p hplaces
    obtain ⟨_, scope, -, -, rfl⟩ := hplaces
    have hobject := (Cluster.apply_ok happly).2.1
    rw [owned_keyIn] at hobject
    exact hw.cluster.replaced (hw.cluster.sole.apply happly (uid_owned.trans hx)) hobject helse
  | merged r p o' _ hplaces hmerge =>
    have helse := haddress r p hplaces
    obtain ⟨_, scope, -, -, rfl⟩ := hplaces
    obtain ⟨-, -, -, hs⟩ := Cluster.mergePatch_ok hmerge
    obtain ⟨hput, hmints⟩ := Cluster.mergePatch_mintsNone hmerge hx
    have hplaced := hw.cluster.replaced (hput.sole hw.cluster.sole) (fun k' => Cluster.object?_put _ k' o' _) helse
    refine ⟨hmints.sole hw.cluster.sole, fun k hk => ?_⟩
    exact ((hplaced.moored hmoored).unchanged hs (fun k' hk' => hk'.1 ▸ helse) hk).trans (hplaced.same k hk)

section
variable (civil : g.Civil keys) (hkeys : ∀ k, ks k → keys k) (helse : ¬ks g.trackerKey)
  (hmoored : w.cluster.Moored ks uids) (quiet : w.Quiet)
include civil hkeys helse hmoored quiet

/-- An application that writes elsewhere leaves alone what is moored. -/
theorem apply_unmoved (bare : g.Bare) (enabled : g.isEnabled = .ok true) (haddress : ∀ k, g.Addresses w k → ¬ks k) :
    (g.apply w).2.Within (Unmoved w.cluster ks uids) := by
  refine apply_within (civil.keeps_unmoved hkeys) (updateTrackerStatus_preserves fun c o content ho h => ?_)
    (fun tracker m x w₁ hvisits hw₁ => ?_) enabled ?_
  · exact h.replaced ((put_content_mintsNone ho).sole h.sole) (fun k' => Cluster.object?_put _ k' _ c) helse
  · refine applyObject_unmoved hmoored (bare.of_visits hvisits).2 (fun r p hplaces => ?_) hw₁
    exact haddress _ ⟨tracker, m, x, w₁, r, p, hvisits, hplaces, rfl⟩
  · have hstart : Unmoved w.cluster ks uids w.cluster := ⟨hmoored.sole, fun _ _ => rfl⟩
    obtain ⟨quiet₁, hsame | ⟨o, happly⟩⟩ := ensureTracker_does (f := g) quiet
    · exact ⟨quiet₁, hsame ▸ hstart⟩
    · exact ⟨quiet₁, hstart.replaced (hmoored.sole.apply happly rfl) (Cluster.apply_ok happly).2.1 helse⟩

/-- The cleanup of another feature leaves alone what is moored. -/
theorem cleanup_unmoved (hk : ks k) : (g.cleanup w).2.cluster.object? k = w.cluster.object? k := by
  have hsole := runAll_preserves (ε := FeatureError) (civil.cleanupsSole ks uids) w ⟨quiet, hmoored.sole⟩
  obtain ⟨quiet₁, hsame⟩ := released_same civil.cleanups quiet
  have hreleased : Unmoved w.cluster ks uids (g.released w).cluster :=
    ⟨hsole.cluster, fun k hk => hsame k (hkeys k hk)⟩
  rw [cleanup_snd]
  rcases World.delete_quiet quiet₁ Tracker.resource none g.trackerName .foreground with ⟨e, _, hcall⟩ | ⟨c, hc, hcall⟩
  · rw [hcall]
    exact hreleased.same k hk
  · rw [hcall]
    have hT (k' : Key) (hk' : k' = g.trackerKey) : ¬ks k' := hk' ▸ helse
    exact ((hreleased.moored hmoored).unchanged (Cluster.delete_ok hc) hT hk).trans (hreleased.same k hk)

end

theorem trackerKey_eq_iff : f.trackerKey = g.trackerKey ↔ f.trackerName = g.trackerName :=
  ⟨congrArg Key.name, fun h => congrArg (Key.ofResource Tracker.resource none) h⟩

/-- Trackers have the same name just if the namespace of one feature takes a part of the other one's name. Where
    the names differ, and neither feature writes where the other one does, nor to the owners of the trackers, the
    cleanup of either leaves the tracker of the other one, and all that was applied under it, as its application
    left them. -/
theorem kept_apart (civil : f.Civil keys) (civil' : g.Civil keys) (hf : keys f.trackerKey) (hg : keys g.trackerKey)
    (bare : f.Bare) (bare' : g.Bare) (enabled : f.isEnabled = .ok true) (enabled' : g.isEnabled = .ok true)
    (apart : w.cluster.Apart) (quiet : w.Quiet) (hmoored : w.cluster.Moored roots uids) (hroots : ∀ k, roots k → keys k)
    (howner : ∀ r ∈ f.owner, uids r.uid) (howner' : ∀ r ∈ g.owner, uids r.uid) :
    let w₁ := (f.apply w).2
    let w₂ := (g.apply w₁).2
    (f.trackerName = g.trackerName ↔ f.appNamespace = g.appNamespace ∧ f.name = g.name ∨
      Tracker.Straddles f.appNamespace f.name g.appNamespace g.name ∨
      Tracker.Straddles g.appNamespace g.name f.appNamespace f.name) ∧
    (f.trackerName ≠ g.trackerName → ¬roots f.trackerKey → ¬roots g.trackerKey →
      (∀ k, f.Addresses w k → k ≠ g.trackerKey ∧ ¬g.Addresses w₁ k ∧ ¬roots k) →
      (∀ k, g.Addresses w₁ k → k ≠ f.trackerKey ∧ ¬roots k) →
      (∀ tracker previous w', f.ensureTracker w = (.ok (tracker, previous), w') →
        ∀ k, f.Holding keys w tracker k → (g.cleanup w₂).2.cluster.object? k = w₁.cluster.object? k) ∧
      ∀ tracker previous w', g.ensureTracker w₁ = (.ok (tracker, previous), w') →
        ∀ k, g.Holding keys w₁ tracker k → (f.cleanup w₂).2.cluster.object? k = w₂.cluster.object? k) := by
  intro w₁ w₂
  refine ⟨Tracker.nameFor_eq_iff, fun hne hroot hroot' hdisjoint hdisjoint' => ?_⟩
  have hw₁ := apply_apart civil bare apart quiet enabled
  constructor
  · intro tracker previous w' hensure k hk
    have hheld := apply_moored civil bare apart quiet enabled hf hmoored hroots howner hensure
    have hkeys (k : Key) (hk : roots k ∨ f.Holding keys w tracker k) : keys k := by
      rcases hk with hk | rfl | hk
      · exact hroots k hk
      · exact hf
      · exact hk.1
    have helse : ¬(roots g.trackerKey ∨ f.Holding keys w tracker g.trackerKey) := by
      rintro (hk | heq | hmakes)
      · exact hroot' hk
      · exact hne (trackerKey_eq_iff.mp heq.symm)
      · exact (hdisjoint _ (hmakes.addresses civil.toSpares quiet)).1 rfl
    have happly := apply_unmoved civil' hkeys helse hheld hw₁.quiet bare' enabled' fun k haddress => by
      rintro (hk | heq | hmakes)
      · exact (hdisjoint' k haddress).2 hk
      · exact (hdisjoint' k haddress).1 heq
      · exact (hdisjoint k (hmakes.addresses civil.toSpares quiet)).2.1 haddress
    exact (cleanup_unmoved civil' hkeys helse (happly.cluster.moored hheld) happly.quiet (.inr hk)).trans
      (happly.cluster.same k (.inr hk))
  · intro tracker previous w' hensure k hk
    have hrooted := (apply_unmoved civil hroots hroot hmoored quiet bare enabled fun k haddress =>
      (hdisjoint k haddress).2.2).cluster.moored hmoored
    have hheld := apply_moored civil' bare' hw₁.cluster hw₁.quiet enabled' hg hrooted hroots howner' hensure
    have hkeys (k : Key) (hk : roots k ∨ g.Holding keys w₁ tracker k) : keys k := by
      rcases hk with hk | rfl | hk
      · exact hroots k hk
      · exact hg
      · exact hk.1
    have helse : ¬(roots f.trackerKey ∨ g.Holding keys w₁ tracker f.trackerKey) := by
      rintro (hk | heq | hmakes)
      · exact hroot hk
      · exact hne (trackerKey_eq_iff.mp heq)
      · exact (hdisjoint' _ (hmakes.addresses civil'.toSpares hw₁.quiet)).1 rfl
    exact cleanup_unmoved civil hkeys helse hheld (apply_quiet enabled' civil'.toSpares hw₁.quiet) (.inr hk)

/-! ### Features of two installations -/

namespace Sample

/-- A feature of the installation in a namespace, with one manifest. -/
def installed (appNamespace name : String) (m : Manifest) : Feature where
  name := name
  targetNamespace := "apps"
  appNamespace := appNamespace
  manifests := [m]

def limits : Object where
  types := some ⟨"v1", "ConfigMap"⟩
  metadata := { name := some "limits" }

def limitsManifest : Manifest := ⟨"map.yaml", "apiVersion: v1\nkind: ConfigMap\nmetadata:\n  name: limits\n"⟩

theorem limitsManifest_process (data : Dict Json) : limitsManifest.process data = .ok [limits] := by
  rw [Manifest.process_of_plain (by decide +kernel)]
  decide +kernel

section
variable {appNamespace name : String} {m : Manifest} {x : Object} {w w₁ : World} {k : Key}
  {tracker : OwnerReference}

theorem installed_civil {keys : Key → Prop} : (installed appNamespace name m).Civil keys where
  preconditions := List.forall_mem_nil _
  data := List.forall_mem_nil _
  resources := List.forall_mem_nil _
  postconditions := List.forall_mem_nil _
  apart := ⟨List.forall_mem_nil _, List.forall_mem_nil _, List.forall_mem_nil _, List.forall_mem_nil _⟩
  sole _ _ := ⟨List.forall_mem_nil _, List.forall_mem_nil _, List.forall_mem_nil _, List.forall_mem_nil _⟩
  cleanups := List.forall_mem_nil _
  cleanupsSole _ _ := List.forall_mem_nil _

variable (hprocess : ∀ data, m.process data = .ok [x])
include hprocess

theorem installed_bare (hx : x.metadata.ownerReferences = none ∧ x.metadata.uid = none) :
    (installed appNamespace name m).Bare := by
  intro m' hm data os hos x' hx'
  rw [List.mem_singleton.mp hm, hprocess] at hos
  cases hos
  rw [List.mem_singleton.mp hx']
  exact hx

/-- The feature writes nothing but the object of its manifest. -/
theorem installed_addresses (h : (installed appNamespace name m).Addresses w k) :
    k.name = x.name ∧ ∀ g, x.gvk? = some g → k.kind = g.kind := by
  obtain ⟨tracker, m', x', w', r, p, hvisits, ⟨g, scope, hg, hresolve, rfl⟩, rfl⟩ := h
  obtain ⟨hm, data, os, hos, hx⟩ := hvisits.mem
  rw [List.mem_singleton.mp hm, hprocess] at hos
  cases hos
  cases List.mem_singleton.mp hx
  refine ⟨rfl, fun g' hg' => ?_⟩
  cases hg.symm.trans hg'
  exact congrArg Gvk.kind (Cluster.resolve_gvk hresolve)

/-- What the first and only step applies is made by the application. -/
theorem installed_makes (htracker : ((installed appNamespace name m).enter w).1.toOption.map (·.1) = some tracker)
    (happlies : (installed appNamespace name m).Applies tracker m x ((installed appNamespace name m).enter w).2 k) :
    (installed appNamespace name m).Makes (fun _ => True) w tracker k := by
  rcases henter : (installed appNamespace name m).enter w with ⟨e | ⟨tracker', data⟩, w₁⟩ <;>
    rw [henter] at htracker happlies
  · cases htracker
  · cases htracker
    refine ⟨trivial, m, x, w₁, ⟨data, w₁, henter, [], [], ?_, rfl⟩, happlies⟩
    show Manifest.objects data [m] = _
    rw [Manifest.objects, hprocess]
    rfl

end

/-- Two features of one name in different installations. -/
def first : Feature := installed "one" "monitoring" settingsManifest

def second : Feature := installed "two" "monitoring" limitsManifest

/-- The first feature is applied in an empty cluster. -/
def withFirst : World := (first.apply {}).2

def withBoth : World := (second.apply withFirst).2

/-- The tracker of a feature called `monitoring` as an owner. -/
def monitoringOwner (appNamespace uid : String) : OwnerReference :=
  ⟨"features.opendatahub.io/v1", "FeatureTracker", appNamespace ++ "-monitoring", uid, none, none⟩

theorem ensured_of_map {f : Feature} {w : World} {tracker : OwnerReference}
    (h : (f.ensureTracker w).1.toOption.map (·.1) = some tracker) :
    ∃ previous w', f.ensureTracker w = (.ok (tracker, previous), w') := by
  rcases hensure : f.ensureTracker w with ⟨e | ⟨tracker', previous⟩, w'⟩ <;> rw [hensure] at h
  · cases h
  · cases h
    exact ⟨previous, w', rfl⟩

theorem first_addresses {k : Key} (h : first.Addresses {} k) : k.name = "settings" ∧ k.kind = "ConfigMap" :=
  (installed_addresses settingsManifest_process h).imp id fun hkind => hkind ⟨"", "v1", "ConfigMap"⟩ (by decide +kernel)

theorem second_addresses {k : Key} (h : second.Addresses withFirst k) : k.name = "limits" ∧ k.kind = "ConfigMap" :=
  (installed_addresses limitsManifest_process h).imp id fun hkind => hkind ⟨"", "v1", "ConfigMap"⟩ (by decide +kernel)

theorem trackerKey_ne_of_map (f : Feature) {k : Key} (hk : k.kind = "ConfigMap") : k ≠ f.trackerKey := by
  rintro rfl
  have hkind : f.trackerKey.kind = "FeatureTracker" := rfl
  rw [hkind] at hk
  revert hk
  decide

/-- The first feature makes the map of its manifest. -/
theorem first_makes : first.Makes (fun _ => True) {} (monitoringOwner "one" "uid-1") (mapKey "settings") := by
  obtain ⟨htracker, hplain, hstep, hmade⟩ :
      (first.enter {}).1.toOption.map (·.1) = some (monitoringOwner "one" "uid-1") ∧ settingsManifest.isPatch = false ∧
        (first.applyObject (monitoringOwner "one" "uid-1") settingsManifest settings (first.enter {}).2).1.isOk = true ∧
          mapKey "settings" ∈ (first.enter {}).2.applied
            (first.applyObject (monitoringOwner "one" "uid-1") settingsManifest settings (first.enter {}).2).2 := by
    decide +kernel
  exact installed_makes settingsManifest_process htracker ⟨hplain, _, Computation.eq_ok_of_isOk hstep, hmade⟩

end Sample

open Feature.Sample in
/-- After each cleanup the tracker and the map of the other feature are there as before. -/
theorem kept_apart_sample :
    withFirst.cluster.object? first.trackerKey ≠ none ∧ withFirst.cluster.object? (mapKey "settings") ≠ none ∧
      withBoth.cluster.object? second.trackerKey ≠ none ∧
      (second.cleanup withBoth).2.cluster.object? first.trackerKey = withFirst.cluster.object? first.trackerKey ∧
      (second.cleanup withBoth).2.cluster.object? (mapKey "settings") =
        withFirst.cluster.object? (mapKey "settings") ∧
      (first.cleanup withBoth).2.cluster.object? second.trackerKey =
        withBoth.cluster.object? second.trackerKey := by
  obtain ⟨hensured, hensured', hthere, hmap, hthere'⟩ :
      (first.ensureTracker {}).1.toOption.map (·.1) = some (monitoringOwner "one" "uid-1") ∧
        (second.ensureTracker withFirst).1.toOption.map (·.1) = some (monitoringOwner "two" "uid-3") ∧
        withFirst.cluster.object? first.trackerKey ≠ none ∧ withFirst.cluster.object? (mapKey "settings") ≠ none ∧
          withBoth.cluster.object? second.trackerKey ≠ none := by
    decide +kernel
  -- Spelled out, the worlds are those of the theorem and nothing is evaluated to compare them.
  unfold withBoth withFirst at *
  obtain ⟨previous, w', hensure⟩ := ensured_of_map hensured
  obtain ⟨previous', w'', hensure'⟩ := ensured_of_map hensured'
  obtain ⟨hkept, hkept'⟩ := (kept_apart (f := first) (g := second) (w := {}) (installed_civil : Civil _ fun _ => True)
    installed_civil trivial trivial (installed_bare settingsManifest_process ⟨rfl, rfl⟩)
    (installed_bare limitsManifest_process ⟨rfl, rfl⟩) rfl rfl (Cluster.apart_of_no_objects rfl) rfl
    (Cluster.moored_of_none (fun _ => False) (fun _ => id) _) (fun _ => False.elim) (fun _ h => by cases h)
    (fun _ h => by cases h)).2 (by decide) id id
    (fun k h => ⟨trackerKey_ne_of_map _ (first_addresses h).2, fun h' => by
      have heq := (first_addresses h).1.symm.trans (second_addresses h').1
      revert heq
      decide, id⟩)
    fun k h => ⟨trackerKey_ne_of_map _ (second_addresses h).2, id⟩
  exact ⟨hthere, hmap, hthere', hkept _ _ _ hensure _ (.inl rfl), hkept _ _ _ hensure _ (.inr first_makes),
    hkept' _ _ _ hensure' _ (.inl rfl)⟩

open Feature.Sample in
/-- The features `c` of `a-b` and `b-c` of `a` share a tracker, and the cleanup of one removes what both applied. -/
theorem shared_tracker_removed :
    let f := installed "a-b" "c" settingsManifest
    let g := installed "a" "b-c" limitsManifest
    let w₁ := (f.apply {}).2
    let w₂ := (g.apply w₁).2
    (f.appNamespace, f.name) ≠ (g.appNamespace, g.name) ∧ f.trackerName = g.trackerName ∧
      f.isEnabled = .ok true ∧ g.isEnabled = .ok true ∧ (f.apply {}).1 = .ok () ∧ (g.apply w₁).1 = .ok () ∧
      mapKey "settings" ∈ World.applied {} w₁ ∧ mapKey "limits" ∈ w₁.applied w₂ ∧
      w₂.cluster.object? g.trackerKey ≠ none ∧ w₂.cluster.object? (mapKey "limits") ≠ none ∧
      (f.cleanup w₂).1 = .ok () ∧ (f.cleanup w₂).2.cluster.object? g.trackerKey = none ∧
        (f.cleanup w₂).2.cluster.object? (mapKey "limits") = none := by
  intro f g w₁ w₂
  obtain ⟨hsame, happly, happly', hmade, hmade', hthere, hmap, hcleanup, hgone, hlost⟩ :
      f.trackerName = g.trackerName ∧ (f.apply {}).1.isOk = true ∧ (g.apply w₁).1.isOk = true ∧
        mapKey "settings" ∈ World.applied {} w₁ ∧ mapKey "limits" ∈ w₁.applied w₂ ∧
        w₂.cluster.object? g.trackerKey ≠ none ∧ w₂.cluster.object? (mapKey "limits") ≠ none ∧
        (f.cleanup w₂).1.isOk = true ∧ (f.cleanup w₂).2.cluster.object? g.trackerKey = none ∧
          (f.cleanup w₂).2.cluster.object? (mapKey "limits") = none := by
    decide +kernel
  exact ⟨by decide, hsame, rfl, rfl, Computation.fst_eq_ok_of_isOk happly, Computation.fst_eq_ok_of_isOk happly', hmade,
    hmade', hthere, hmap, Computation.fst_eq_ok_of_isOk hcleanup, hgone, hlost⟩

end Feature
end PlatformOperator
