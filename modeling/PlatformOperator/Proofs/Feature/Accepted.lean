import Mathlib.Data.List.Forall2
import PlatformOperator.Proofs.Feature.Settling
import PlatformOperator.Proofs.Feature.Steady

/-! Objects that a feature applies one after another in a calm world. Each of them is settled in its place, as long as
    it has a name or what is there is left alone. -/

namespace PlatformOperator
open Computation

namespace Feature
open Op
variable {f : Feature} {tracker : OwnerReference} {m : Manifest} {w w₁ w₂ w' : World} {data : Dict Json}

/-! ### Objects -/

variable {o : Object} {q : Key × Object} {r : ApiResource} {p : Object} {c c' c₁ : Cluster}

/-- The feature applies the object as this one, under this key. -/
def Targets (f : Feature) (tracker : OwnerReference) (c : Cluster) (o : Object) (q : Key × Object) : Prop :=
  ∃ r p, f.Places c o r p ∧ q = (p.keyIn r, f.owned tracker p)

/-- The object has a name, or it is not applied at all. -/
def Accepts (f : Feature) (c : Cluster) (q : Key × Object) : Prop :=
  q.2.metadata.name.isSome ∨ (c.object? q.1).any f.leaves

theorem targets_congr (h : c.SameSettings c') : f.Targets tracker c' o q ↔ f.Targets tracker c o q := by
  simp only [Targets, Places, Cluster.resolve, h.served]

/-- An apply of what the feature applies settles it. -/
theorem Places.settle_of_apply {o' : Object} (h : f.Places c' o r p)
    (happly : c.apply r (f.owned tracker p) = .ok (o', c₁))
    (hmanaged : ∀ old, c.object? (p.keyIn r) = some old → old.metadata.isUnmanaged = false) :
    c₁ = c.settle (p.keyIn r, f.owned tracker p) := by
  obtain ⟨g, scope, hg, -, rfl⟩ := h
  let p := Deploy.placed scope f.targetNamespace o
  obtain ⟨t, ht, -⟩ := Option.map_eq_some_iff.mp hg
  have htyped : { f.owned tracker p with types := some ((f.owned tracker p).types.getD ⟨r.apiVersion, r.kind⟩) } =
      f.owned tracker p := by
    have htypes : (f.owned tracker p).types = some t := ht
    rw [htypes, Option.getD_some, ← htypes]
  have hsettled := (Cluster.settle_of_apply happly (by rw [owned_keyIn]; exact hmanaged)).1
  rwa [owned_keyIn, htyped] at hsettled

/-- In a calm world the step for an object looks what is in its place, and applies the object unless that is left
    alone. -/
theorem applyObject_calm (tracker : OwnerReference) (calm : w.Calm) (hpatch : m.isPatch = false)
    (hplaces : f.Places w.cluster o r p) :
    ∃ w₁, w₁.cluster = w.cluster ∧ w.Advances [] w₁ ∧
      f.applyObject tracker m o w = if (w.cluster.object? (p.keyIn r)).any f.leaves then (.ok (), w₁)
        else (mapError (FeatureError.applyObject r.kind p.name) (World.applyObject r (f.owned tracker p)) >>=
          fun _ => pure ()) w₁ := by
  obtain ⟨g, scope, hg, hresolve, rfl⟩ := hplaces
  let p := Deploy.placed scope f.targetNamespace o
  have hfound := World.resolve_calm calm g
  rw [hresolve] at hfound
  have calm₁ : (w.called (.resolve g)).Calm := World.SameSettings.called _ w |>.calm calm
  have hget := World.getObject_calm calm₁ r p.metadata.namespace p.name
  let w₁ := (w.called (.resolve g)).called (.get r p.metadata.namespace p.name)
  have hadvances : w.Advances [] w₁ := (World.Advances.called rfl w).trans (.called rfl _)
  refine ⟨w₁, rfl, hadvances, ?_⟩
  rw [applyObject, hg]
  dsimp only
  rw [bind_ok (mapError_eq hfound)]
  dsimp only
  rw [if_neg (by rw [hpatch]; exact Bool.false_ne_true), createOrUpdate, bind_ok (mapError_eq hget), Cluster.get_keyIn]
  rw [show (w.called (.resolve g)).cluster = w.cluster from rfl]
  by_cases hleft : (w.cluster.object? (p.keyIn r)).any f.leaves
  · rw [if_pos hleft, if_pos hleft]
    rfl
  · rw [if_neg hleft, if_neg hleft]

/-- An object that is accepted is settled in its place, and applied there only if nothing in it was left alone. -/
theorem applyObject_settles (calm : w.Calm) (hpatch : m.isPatch = false) (htargets : f.Targets tracker w.cluster o q)
    (haccepts : f.Accepts w.cluster q) :
    ∃ ks w', f.applyObject tracker m o w = (.ok (), w') ∧ w'.cluster = f.settle w.cluster q ∧ w.Advances ks w' ∧
      ∀ k ∈ ks, k = q.1 ∧ (w.cluster.object? q.1).any f.leaves = false := by
  obtain ⟨r, p, hplaces, rfl⟩ := htargets
  obtain ⟨w₁, hcluster, hadvances, hstep⟩ := applyObject_calm tracker calm hpatch hplaces
  by_cases hleft : (w.cluster.object? (p.keyIn r)).any f.leaves
  · rw [if_pos hleft] at hstep
    refine ⟨[], w₁, hstep, ?_, hadvances, List.forall_mem_nil _⟩
    rw [hcluster, settle, if_pos hleft]
  · rw [if_neg hleft] at hstep
    obtain ⟨o', c', happly⟩ : ∃ o' c', w₁.cluster.apply r (f.owned tracker p) = .ok (o', c') :=
      Cluster.apply_eq_ok_iff.mpr (haccepts.resolve_right hleft)
    obtain ⟨w₂, hcall, rfl, hadvances'⟩ := World.applyObject_advances (hadvances.calm calm) happly
    have hfree : (w.cluster.object? (p.keyIn r)).any f.leaves = false := by simpa using hleft
    refine ⟨_, w₂, ?_, ?_, hadvances.trans hadvances', fun k hk => ?_⟩
    · rw [hstep, bind_ok (mapError_eq hcall)]
      rfl
    · rw [settle, if_neg hleft, ← hcluster]
      exact hplaces.settle_of_apply happly fun old hold => by
        rw [hcluster] at hold
        exact isUnmanaged_of_leaves (by simpa [hold] using hfree)
    · rw [List.nil_append, List.mem_singleton, owned_keyIn] at hk
      exact ⟨hk, hfree⟩

/-- The step for an object succeeds only if the object is accepted. -/
theorem applyObject_accepts (calm : w.Calm) (hpatch : m.isPatch = false)
    (h : f.applyObject tracker m o w = (.ok (), w')) :
    ∃ q, f.Targets tracker w.cluster o q ∧ f.Accepts w.cluster q := by
  cases hg : o.gvk? with
  | none =>
    rw [applyObject, hg] at h
    cases h
  | some g =>
    have hfound := World.resolve_calm calm g
    cases hresolve : w.cluster.resolve g with
    | error e =>
      rw [hresolve] at hfound
      rw [applyObject, hg] at h
      dsimp only at h
      rw [bind_error (mapError_eq hfound)] at h
      cases h
    | ok found =>
      obtain ⟨r, scope⟩ := found
      have hplaces : f.Places w.cluster o r (Deploy.placed scope f.targetNamespace o) := ⟨g, scope, hg, hresolve, rfl⟩
      obtain ⟨w₁, hcluster, hadvances, hstep⟩ := applyObject_calm tracker calm hpatch hplaces
      refine ⟨_, ⟨r, _, hplaces, rfl⟩, ?_⟩
      by_cases hleft : (w.cluster.object? ((Deploy.placed scope f.targetNamespace o).keyIn r)).any f.leaves
      · exact .inr hleft
      · rw [if_neg hleft] at hstep
        obtain ⟨o', w₂, hcall, -⟩ := bind_eq_ok.mp (hstep.symm.trans h)
        rw [mapError_eq_ok] at hcall
        rw [World.applyObject_calm (hadvances.calm calm)] at hcall
        rcases happly : w₁.cluster.apply r (f.owned tracker (Deploy.placed scope f.targetNamespace o)) with
          e | ⟨o', c'⟩
        · rw [happly] at hcall
          cases hcall
        · exact .inl (Cluster.apply_eq_ok_iff.mp ⟨o', c', happly⟩)

/-! ### Objects one after another -/

variable {qs : List (Key × Object)} {xs : List (Manifest × Object)}

theorem targets_of_mem (h : List.Forall₂ (fun x q => f.Targets tracker c x.2 q) xs qs) (hq : q ∈ qs) :
    ∃ o, f.Targets tracker c o q := by
  induction h with
  | nil => cases hq
  | cons hfirst _ ih =>
    rcases List.mem_cons.mp hq with rfl | hq
    · exact ⟨_, hfirst⟩
    · exact ih hq

/-- Each of the objects is accepted when its turn comes. -/
def AcceptsAll (f : Feature) : Cluster → List (Key × Object) → Prop
  | _, [] => True
  | c, q :: qs => f.Accepts c q ∧ f.AcceptsAll (f.settle c q) qs

theorem Accepts.settled (h : f.Accepts c q) (qs : List (Key × Object)) : f.Accepts (qs.foldl f.settle c) q := by
  refine h.imp_right fun hleft => ?_
  cases hs : c.object? q.1 with
  | none =>
    rw [hs] at hleft
    cases hleft
  | some s =>
    rw [hs, Option.any_some] at hleft
    rw [foldl_settle_of_left hs hleft, Option.any_some, hleft]

theorem acceptsAll_of_forall (h : ∀ q ∈ qs, f.Accepts c q) : f.AcceptsAll c qs := by
  induction qs generalizing c with
  | nil => trivial
  | cons q qs ih =>
    obtain ⟨hq, hqs⟩ := List.forall_mem_cons.mp h
    exact ⟨hq, ih fun q' hq' => (hqs q' hq').settled [q]⟩

/-- What was accepted in its turn is accepted in the end. -/
theorem AcceptsAll.settled (h : f.AcceptsAll c qs) : ∀ q ∈ qs, f.Accepts (qs.foldl f.settle c) q := by
  induction qs generalizing c with
  | nil => exact List.forall_mem_nil _
  | cons q qs ih =>
    obtain ⟨hq, hqs⟩ := h
    exact List.forall_mem_cons.mpr ⟨hq.settled (q :: qs), ih hqs⟩

/-- Steps that all succeed are for objects that are accepted one after the other. -/
theorem applyEach_accepts (calm : w.Calm) (plain : ∀ x ∈ xs, x.1.isPatch = false)
    (h : f.applyEach tracker xs w = (.ok (), w')) :
    ∃ qs, List.Forall₂ (fun x q => f.Targets tracker w.cluster x.2 q) xs qs ∧ f.AcceptsAll w.cluster qs := by
  induction xs generalizing w with
  | nil => exact ⟨[], .nil, trivial⟩
  | cons x xs ih =>
    obtain ⟨m, o⟩ := x
    obtain ⟨hpatch, plain⟩ := List.forall_mem_cons.mp plain
    obtain ⟨_, w₁, hfirst, hrest⟩ := bind_eq_ok.mp h
    obtain ⟨q, htargets, haccepts⟩ := applyObject_accepts calm hpatch hfirst
    obtain ⟨ks, w₁', hsettles, hcluster, hadvances, -⟩ := applyObject_settles calm hpatch htargets haccepts
    cases hfirst.symm.trans hsettles
    obtain ⟨qs, hqs, hall⟩ := ih (hadvances.calm calm) plain hrest
    refine ⟨q :: qs, .cons htargets ?_, haccepts, ?_⟩
    · exact hqs.imp fun _ _ h => (targets_congr hadvances.settings.cluster).mp h
    · rwa [← hcluster]

/-- Objects that are accepted one after the other are settled, and those that were applied have the tracker as an owner
    once. -/
theorem applyEach_settles (calm : w.Calm) (plain : ∀ x ∈ xs, x.1.isPatch = false)
    (htargets : List.Forall₂ (fun x q => f.Targets tracker w.cluster x.2 q) xs qs)
    (haccepts : f.AcceptsAll w.cluster qs) :
    ∃ ks w', f.applyEach tracker xs w = (.ok (), w') ∧ w'.cluster = qs.foldl f.settle w.cluster ∧ w.Advances ks w' ∧
      ∀ k, k ∈ ks ∨ w.cluster.OwnedOnce tracker.uid k → w'.cluster.OwnedOnce tracker.uid k := by
  induction xs generalizing w qs with
  | nil =>
    cases htargets
    exact ⟨[], w, rfl, rfl, .refl w, fun k hk => hk.resolve_left List.not_mem_nil⟩
  | cons x xs ih =>
    obtain ⟨m, o⟩ := x
    obtain ⟨hpatch, plain⟩ := List.forall_mem_cons.mp plain
    cases htargets with
    | @cons _ q _ qs hq hqs =>
      obtain ⟨haccept, hrest⟩ := haccepts
      obtain ⟨ks, w₁, hfirst, hcluster, hadvances, hfree⟩ := applyObject_settles calm hpatch hq haccept
      rw [← hcluster] at hrest
      obtain ⟨ks', w', happly, hcluster', hadvances', honce⟩ := ih (hadvances.calm calm) plain
        (hqs.imp fun _ _ h => (targets_congr hadvances.settings.cluster).mpr h) hrest
      refine ⟨ks ++ ks', w', (bind_ok hfirst).trans happly, ?_, hadvances.trans hadvances', fun k hk => ?_⟩
      · rw [hcluster', hcluster, List.foldl_cons]
      · have hqonce : q.2.metadata.owners.countP (·.uid == tracker.uid) ≤ 1 := by
          obtain ⟨r, p, -, rfl⟩ := hq
          exact owned_once.le
        rw [List.mem_append, or_assoc, or_left_comm] at hk
        refine honce k (hk.imp_right fun hk => ?_)
        rw [hcluster]
        refine settle_ownedOnce hqonce (hk.symm.imp_right fun hk => ?_)
        obtain ⟨rfl, hfree⟩ := hfree k hk
        exact ⟨rfl, hfree⟩

/-! ### Whole applications -/

/-- The manifests are applied if all can be read and all their objects can be applied. -/
theorem applyManifests_eq_ok {ms : List Manifest} : f.applyManifests tracker data ms w = (.ok (), w') ↔
    (∀ m ∈ ms, ∃ os, m.process data = .ok os) ∧ f.applyEach tracker (Manifest.objects data ms) w = (.ok (), w') := by
  induction ms generalizing w with
  | nil => exact ⟨fun h => ⟨List.forall_mem_nil _, h⟩, And.right⟩
  | cons m ms ih =>
    rw [applyManifests, Manifest.objects, List.forall_mem_cons]
    cases hread : m.process data with
    | error e =>
      constructor
      · intro h
        cases h
      · rintro ⟨⟨⟨_, h⟩, -⟩, -⟩
        cases h
    | ok os =>
      dsimp only
      rw [applyObjects_eq, applyEach_append, bind_eq_ok, bind_eq_ok]
      constructor
      · rintro ⟨_, w₁, hfirst, hrest⟩
        obtain ⟨hms, hrest⟩ := ih.mp hrest
        exact ⟨⟨⟨os, rfl⟩, hms⟩, _, w₁, hfirst, hrest⟩
      · rintro ⟨⟨-, hms⟩, _, w₁, hfirst, hrest⟩
        exact ⟨_, w₁, hfirst, ih.mpr ⟨hms, hrest⟩⟩

section
variable (plain : ∀ m ∈ f.manifests, m.isPatch = false) (steady : f.Steady) (calm : w.Calm)
include plain steady calm

/-- Steps that all succeed settle some objects, and do so in every later world where these are accepted. What they
    applied has the tracker as an owner once. -/
theorem applySteps_settles (h : f.applySteps tracker w = (.ok (), w')) :
    ∃ qs : List (Key × Object), f.AcceptsAll w.cluster qs ∧ (f.managed = true → ∀ q ∈ qs, f.leaves q.2 = false) ∧
      ∀ w₁, w.Persists w₁ → f.AcceptsAll w₁.cluster qs → ∃ ks w₁', f.applySteps tracker w₁ = (.ok (), w₁') ∧
        w₁'.cluster = qs.foldl f.settle w₁.cluster ∧ w₁.Advances ks w₁' ∧
          ∀ k, k ∈ ks ∨ w₁.cluster.OwnedOnce tracker.uid k → w₁'.cluster.OwnedOnce tracker.uid k := by
  obtain ⟨data, wₑ, hprepare, h⟩ := bind_eq_ok.mp h
  obtain ⟨_, wₘ, happly, hverify⟩ := bind_eq_ok.mp h
  obtain ⟨hread, happly⟩ := applyManifests_eq_ok.mp happly
  obtain ⟨hcluster, hadvances⟩ := (prepare_steady steady).looks w calm
  rw [hprepare] at hcluster hadvances
  have calmₑ : wₑ.Calm := hadvances.calm calm
  have plain' : ∀ x ∈ Manifest.objects data f.manifests, x.1.isPatch = false :=
    fun x hx => plain _ (Manifest.mem_objects hx).1
  obtain ⟨qs, htargets, haccepts⟩ := applyEach_accepts calmₑ plain' happly
  refine ⟨qs, hcluster ▸ haccepts, fun hmanaged q hq => ?_, fun w₁ hpersists haccepts₁ => ?_⟩
  · obtain ⟨o, r, p, -, rfl⟩ := targets_of_mem htargets hq
    exact leaves_owned hmanaged
  · obtain ⟨wₑ', hprepare', hbetweenₑ, hcluster', hadvances'⟩ :=
      (prepare_steady steady).again calm hpersists hprepare
    have calmₑ' : wₑ'.Calm := hbetweenₑ.settings.calm calmₑ
    rw [← hcluster'] at haccepts₁
    obtain ⟨ks, wₘ', happly', hsettles, hadvancesₘ, honce⟩ := applyEach_settles calmₑ' plain'
      (htargets.imp fun _ _ h => (targets_congr hbetweenₑ.settings.cluster).mpr h) haccepts₁
    -- The postconditions hold again since no object went in between.
    obtain ⟨ks₀, wₘ₀, happly₀, hsettles₀, hadvances₀, -⟩ := applyEach_settles calmₑ plain' htargets haccepts
    cases happly.symm.trans happly₀
    have hbetweenₘ : wₘ.Persists wₘ' := by
      refine hbetweenₑ.between hadvances₀.toPersists hadvancesₘ.toPersists ?_
      rw [hsettles, hsettles₀]
      exact foldl_settle_present hbetweenₑ.present qs
    obtain ⟨wᵥ', hverify', -, hclusterᵥ, hadvancesᵥ⟩ :=
      (verify_steady steady).again (hadvances₀.calm calmₑ) hbetweenₘ hverify
    refine ⟨ks, wᵥ', ?_, ?_, ?_, fun k hk => ?_⟩
    · rw [applySteps, bind_ok hprepare', bind_ok (applyManifests_eq_ok.mpr ⟨hread, happly'⟩)]
      exact hverify'
    · rw [hclusterᵥ, hsettles, hcluster']
    · have hall := (hadvances'.trans hadvancesₘ).trans hadvancesᵥ
      rwa [List.nil_append, List.append_nil] at hall
    · rw [hclusterᵥ]
      exact honce k (by rwa [hcluster'])

end

end Feature
end PlatformOperator
