import Mathlib.Data.List.Nodup
import Mathlib.Data.List.Perm.Subperm
import Mathlib.Logic.Relation
import PlatformOperator.Cluster

/-! Deleting an object takes along what it owns, unless dependents are orphaned. A finalizer holds an
    object back: it is marked, and what it owns stays. `Sweeps` says what becomes of every object between
    two states when the objects under some keys are deleted, in whichever order; one deletion sweeps its
    key (`remove_sweeps`), and one sweep after another sweeps the keys of both (`Sweeps.trans`). -/

namespace PlatformOperator
open Relation

/-! ### Single objects -/

namespace Object

/-- The object as a deletion at `now` marks it. -/
def markedAt (now : Timestamp) (o : Object) : Object := o.mapMeta fun m => { m with deletionTimestamp := some now }

/-- What deletion leaves of an object: nothing, or the marked object as long as finalizers hold it. -/
inductive Deleted (o : Object) : Option Object → Prop where
  | removed : o.metadata.finalizerList = [] → Deleted o none
  | marked (now : Timestamp) : o.metadata.finalizerList ≠ [] → o.metadata.isTerminating = false →
      Deleted o (some (o.markedAt now))

/-- `o'` is `o`, or `o` marked by a deletion. -/
def Persists (o o' : Object) : Prop := o' = o ∨ o.Deleted (some o')

variable {o o' : Object}

theorem Deleted.of_some (h : o.Deleted (some o')) :
    o'.metadata.finalizerList = o.metadata.finalizerList ∧ o.metadata.finalizerList ≠ [] ∧
      o'.metadata.isTerminating = true := by
  cases h with
  | marked now hne _ => exact ⟨rfl, hne, rfl⟩

/-- A deletion changes neither finalizers nor owners nor the UID. -/
theorem Persists.same (h : o.Persists o') :
    o'.metadata.finalizerList = o.metadata.finalizerList ∧ o'.metadata.owners = o.metadata.owners ∧
      o'.metadata.uid = o.metadata.uid := by
  rcases h with rfl | h
  · exact ⟨rfl, rfl, rfl⟩
  · cases h with
    | marked now _ _ => exact ⟨rfl, rfl, rfl⟩

/-- What was marked once is not deleted any further. -/
theorem Deleted.not_again (h : o.Deleted (some o')) {x : Option Object} : ¬o'.Deleted x := by
  obtain ⟨hfin, hne, hterm⟩ := h.of_some
  intro h'
  cases h' with
  | removed hnil => exact hne (hfin.symm.trans hnil)
  | marked now _ hlive => rw [hterm] at hlive; cases hlive

end Object

namespace Cluster

/-- The object at `k` is an owner of the one at `k'`. -/
def Owns (c : Cluster) (k k' : Key) : Prop :=
  ∃ o o', c.object? k = some o ∧ c.object? k' = some o' ∧ ∃ r ∈ o'.metadata.owners, o.metadata.uid = some r.uid

/-- Deleting the object at `k` removes it and so deletes the one at `k'`. -/
def Cascades (c : Cluster) (policy : Propagation) (k k' : Key) : Prop :=
  policy ≠ .orphan ∧ c.Owns k k' ∧ ∀ o, c.object? k = some o → o.metadata.finalizerList = []

/-- No object is at `k`, or one that only its finalizers keep. -/
def Withdrawn (c : Cluster) (k : Key) : Prop :=
  ∀ o, c.object? k = some o → o.metadata.finalizerList ≠ [] ∧ o.metadata.isTerminating = true

/-- The states differ in objects at most, and in the number of UIDs given out. -/
structure SameSettings (c c' : Cluster) : Prop where
  served : c'.served = c.served
  rules : c'.rules = c.rules
  listRefusals : c'.listRefusals = c.listRefusals
  deleteRefusals : c'.deleteRefusals = c.deleteRefusals

theorem SameSettings.refl (c : Cluster) : SameSettings c c := ⟨rfl, rfl, rfl, rfl⟩

theorem SameSettings.symm {c c' : Cluster} (h : SameSettings c c') : SameSettings c' c :=
  ⟨h.served.symm, h.rules.symm, h.listRefusals.symm, h.deleteRefusals.symm⟩

theorem SameSettings.trans {c c₁ c' : Cluster} (h₁ : SameSettings c c₁) (h₂ : SameSettings c₁ c') :
    SameSettings c c' :=
  ⟨h₂.served.trans h₁.served, h₂.rules.trans h₁.rules, h₂.listRefusals.trans h₁.listRefusals,
    h₂.deleteRefusals.trans h₁.deleteRefusals⟩

theorem ext_object? {c c' : Cluster} (hset : c.SameSettings c') (huids : c'.uids = c.uids) (h : ∀ k, c'.object? k = c.object? k) :
    c' = c := by
  have nodup (c : Cluster) : c.objects.Nodup := c.ascending.imp fun hlt heq => Key.ne_of_lt hlt (congrArg Prod.fst heq)
  have hperm : c'.objects.Perm c.objects := by
    refine (List.perm_ext_iff_of_nodup (nodup c') (nodup c)).mpr fun ⟨k, o⟩ => ?_
    rw [mem_objects, mem_objects, h]
  have hobjects : c'.objects = c.objects := by
    refine hperm.eq_of_pairwise (fun p q _ _ hpq hqp => ?_) c'.ascending c.ascending
    exact absurd rfl (Key.ne_of_lt (Key.lt_trans hpq hqp))
  obtain ⟨served, rules, objects, listRefusals, deleteRefusals, uids, ascending⟩ := c
  obtain ⟨served', rules', objects', listRefusals', deleteRefusals', uids', ascending'⟩ := c'
  obtain ⟨rfl, rfl, rfl, rfl⟩ := hset
  cases huids
  cases hobjects
  rfl

/-- Between the states the objects under the keys `T` were deleted, and with them those that the deletion
    reaches from there. All other objects are as before. -/
structure Sweeps (policy : Propagation) (T : Key → Prop) (c c' : Cluster) : Prop where
  settings : SameSettings c c'
  objects : ∀ k, c'.object? k = c.object? k ∨
    (∃ t, T t ∧ ReflTransGen (c.Cascades policy) t k) ∧ ∃ o, c.object? k = some o ∧ o.Deleted (c'.object? k)
  targets : ∀ k, T k → c'.Withdrawn k
  spreads : ∀ k k', c.Cascades policy k k' → c'.object? k = none → c'.Withdrawn k'

section
variable {c c₁ c' : Cluster} {policy : Propagation} {T T' : Key → Prop} {k k' t : Key} {o : Object}

theorem withdrawn_of_none (h : c.object? k = none) : c.Withdrawn k := fun o ho => by
  rw [h] at ho
  cases ho

theorem Withdrawn.not_finalizer_free (h : c.Withdrawn k) (hk : c.object? k = some o) : o.metadata.finalizerList ≠ [] :=
  (h o hk).1

theorem Cascades.isSome (h : c.Cascades policy k k') : c.object? k ≠ none := by
  obtain ⟨-, ⟨o, o', ho, -, -⟩, -⟩ := h
  rw [ho]
  exact Option.some_ne_none o

/-! ### What a sweep leaves -/

namespace Sweeps

theorem refl (policy : Propagation) (c : Cluster) : Sweeps policy (fun _ => False) c c where
  settings := .refl c
  objects _ := .inl rfl
  targets _ h := h.elim
  spreads _ _ h hnone := absurd hnone h.isSome

/-- An object after a sweep was there before. -/
theorem before (h : Sweeps policy T c c') {o' : Object} (hk : c'.object? k = some o') :
    ∃ o, c.object? k = some o ∧ o.Persists o' := by
  rcases h.objects k with heq | ⟨-, o, ho, hdel⟩
  · exact ⟨o', heq.symm.trans hk, .inl rfl⟩
  · exact ⟨o, ho, .inr (hk ▸ hdel)⟩

theorem none_of_none (h : Sweeps policy T c c') (hk : c.object? k = none) : c'.object? k = none := by
  cases hk' : c'.object? k with
  | none => rfl
  | some o' =>
    obtain ⟨o, ho, -⟩ := h.before hk'
    rw [hk] at ho
    cases ho

theorem cascades (h : Sweeps policy T c c') (hk : c'.Cascades policy k k') : c.Cascades policy k k' := by
  obtain ⟨hpol, ⟨o, o', ho, ho', r, hr, huid⟩, hfin⟩ := hk
  obtain ⟨o₀, ho₀, hp⟩ := h.before ho
  obtain ⟨o₀', ho₀', hp'⟩ := h.before ho'
  refine ⟨hpol, ⟨o₀, o₀', ho₀, ho₀', r, hp'.same.2.1 ▸ hr, hp.same.2.2 ▸ huid⟩, fun o₁ ho₁ => ?_⟩
  rw [ho₀] at ho₁
  cases ho₁
  rw [← hp.same.1]
  exact hfin o ho

theorem withdrawn (h : Sweeps policy T c c') (hk : c.Withdrawn k) : c'.Withdrawn k := by
  intro o' ho'
  obtain ⟨o, ho, rfl | hdel⟩ := h.before ho'
  · exact hk o' ho
  · obtain ⟨hfin, hne, hterm⟩ := hdel.of_some
    exact ⟨hfin ▸ hne, hterm⟩

/-- An object that nothing holds back is the same after a sweep or gone. -/
theorem eq_or_none (h : Sweeps policy T c c') (hk : c.object? k = some o) (hfin : o.metadata.finalizerList = []) :
    c'.object? k = some o ∨ c'.object? k = none := by
  rcases h.objects k with heq | ⟨-, o₁, ho₁, hdel⟩
  · exact .inl (heq.trans hk)
  · rw [hk] at ho₁
    cases ho₁
    generalize c'.object? k = x at hdel ⊢
    cases hdel with
    | removed _ => exact .inr rfl
    | marked _ hne _ => exact absurd hfin hne

theorem trans (h₁ : Sweeps policy T c c₁) (h₂ : Sweeps policy T' c₁ c') :
    Sweeps policy (fun k => T k ∨ T' k) c c' where
  settings := h₁.settings.trans h₂.settings
  objects k := by
    rcases h₁.objects k with heq₁ | ⟨⟨t, ht, hr⟩, o, ho, hdel⟩ <;>
      rcases h₂.objects k with heq₂ | ⟨⟨t', ht', hr'⟩, o', ho', hdel'⟩
    · exact .inl (heq₂.trans heq₁)
    · exact .inr ⟨⟨t', .inr ht', ReflTransGen.mono (fun _ _ => h₁.cascades) _ _ hr'⟩, o', heq₁ ▸ ho', hdel'⟩
    · exact .inr ⟨⟨t, .inl ht, hr⟩, o, ho, heq₂ ▸ hdel⟩
    · rw [ho'] at hdel
      exact absurd hdel' hdel.not_again
  targets k := fun
    | .inl hk => h₂.withdrawn (h₁.targets k hk)
    | .inr hk => h₂.targets k hk
  spreads k k' hk hnone := by
    obtain ⟨hpol, ⟨o, o', ho, ho', r, hr, huid⟩, hfin⟩ := hk
    have hk : c.Cascades policy k k' := ⟨hpol, ⟨o, o', ho, ho', r, hr, huid⟩, hfin⟩
    -- The owner was removed by the first sweep, or is unchanged and removed by the second.
    rcases h₁.eq_or_none ho (hfin o ho) with hsame | hgone
    · rcases h₁.objects k' with heq | ⟨-, o₁, ho₁, hdel⟩
      · refine h₂.spreads k k' ⟨hpol, ⟨o, o', hsame, heq.trans ho', r, hr, huid⟩, fun o₁ ho₁ => ?_⟩ hnone
        exact hfin o₁ (ho.trans (hsame.symm.trans ho₁))
      · refine h₂.withdrawn fun o₂ ho₂ => ?_
        rw [ho₂] at hdel
        obtain ⟨hfin₂, hne, hterm⟩ := hdel.of_some
        exact ⟨hfin₂ ▸ hne, hterm⟩
    · exact h₂.withdrawn (h₁.spreads k k' hk hgone)

/-- A sweep of some keys is one of more keys if nothing is left at these either. -/
theorem widen (h : Sweeps policy T c c') (hsub : ∀ k, T k → T' k) (hleft : ∀ k, T' k → c'.Withdrawn k) :
    Sweeps policy T' c c' where
  settings := h.settings
  objects k := (h.objects k).imp_right fun ⟨⟨t, ht, hr⟩, hdel⟩ => ⟨⟨t, hsub t ht, hr⟩, hdel⟩
  targets := hleft
  spreads := h.spreads

/-- All that deletion reaches from the swept keys is withdrawn. -/
theorem reached (h : Sweeps policy T c c') (ht : T t) (hr : ReflTransGen (c.Cascades policy) t k) :
    c'.Withdrawn k := by
  induction hr with
  | refl => exact h.targets t ht
  | tail _ hstep ih =>
    obtain ⟨-, ⟨o, -, ho, -, -⟩, hfin⟩ := id hstep
    rcases h.eq_or_none ho (hfin o ho) with hsame | hgone
    · exact absurd (hfin o ho) (ih.not_finalizer_free hsame)
    · exact h.spreads _ _ hstep hgone

/-- An object stays as it is just if no deletion reaches it, or if it was withdrawn before. -/
theorem kept_iff (h : Sweeps policy T c c') (ho : c.object? k = some o) :
    c'.object? k = some o ↔ ∀ t, T t → ReflTransGen (c.Cascades policy) t k → c.Withdrawn k := by
  constructor
  · intro hkept t ht hr o' ho'
    rw [ho, ← hkept] at ho'
    exact h.reached ht hr o' ho'
  · intro hwithdrawn
    rcases h.objects k with heq | ⟨⟨t, ht, hr⟩, o', ho', hdel⟩
    · exact heq.trans ho
    · obtain ⟨hne, hterm⟩ := hwithdrawn t ht hr o' ho'
      generalize c'.object? k = x at hdel
      cases hdel with
      | removed hnil => exact absurd hnil hne
      | marked _ _ hlive =>
        rw [hterm] at hlive
        cases hlive

/-- A live object under a swept key is deleted. -/
theorem deleted (h : Sweeps policy T c c') (hk : T k) (ho : c.object? k = some o)
    (hlive : o.metadata.isTerminating = false) : o.Deleted (c'.object? k) := by
  rcases h.objects k with heq | ⟨-, o', ho', hdel⟩
  · have hterm := (h.targets k hk o (heq.trans ho)).2
    rw [hlive] at hterm
    cases hterm
  · rw [ho] at ho'
    cases ho'
    exact hdel

/-- A swept object whose deletion reaches others is gone. -/
theorem removed (h : Sweeps policy T c c') (ht : T t) (hstep : c.Cascades policy t k) :
    c.object? t ≠ none ∧ c'.object? t = none := by
  obtain ⟨-, ⟨o, -, ho, -, -⟩, hfin⟩ := id hstep
  refine ⟨hstep.isSome, (h.eq_or_none ho (hfin o ho)).resolve_left fun hsame => ?_⟩
  exact (h.targets t ht).not_finalizer_free hsame (hfin o ho)

/-- What no swept object owns, not even through others, is as before. -/
theorem unchanged (h : Sweeps policy T c c') (hk : ∀ t, T t → ¬ReflTransGen c.Owns t k) :
    c'.object? k = c.object? k := by
  rcases h.objects k with heq | ⟨⟨t, ht, hr⟩, -⟩
  · exact heq
  · exact absurd (ReflTransGen.mono (fun _ _ hstep => hstep.2.1) _ _ hr) (hk t ht)

theorem length_le (h : Sweeps policy T c c') : c'.objects.length ≤ c.objects.length := by
  have nodup (c : Cluster) : (c.objects.map (·.1)).Nodup :=
    List.pairwise_map.mpr (c.ascending.imp fun h => Key.ne_of_lt h)
  have hsub : c'.objects.map (·.1) ⊆ c.objects.map (·.1) := by
    intro k hk
    obtain ⟨⟨k, o'⟩, hmem, rfl⟩ := List.mem_map.mp hk
    obtain ⟨o, ho, -⟩ := h.before (mem_objects.mp hmem)
    exact List.mem_map.mpr ⟨(k, o), mem_objects.mpr ho, rfl⟩
  simpa using ((nodup c').subperm hsub).length_le

end Sweeps

/-! ### One deletion -/

theorem mem_dependents {uid : String} :
    k ∈ c.dependents uid ↔ ∃ o, c.object? k = some o ∧ ∃ r ∈ o.metadata.owners, r.uid = uid := by
  simp only [dependents, List.mem_map, List.mem_filter, List.any_eq_true, beq_iff_eq]
  constructor
  · rintro ⟨⟨k, o⟩, ⟨hmem, howner⟩, rfl⟩
    exact ⟨o, mem_objects.mp hmem, howner⟩
  · rintro ⟨o, ho, howner⟩
    exact ⟨(k, o), ⟨mem_objects.mpr ho, howner⟩, rfl⟩

theorem length_drop_lt (h : c.object? k = some o) : (c.drop k).objects.length < c.objects.length :=
  List.length_filter_lt_length_iff_exists.mpr ⟨(k, o), mem_objects.mpr h, by simp⟩

theorem sweeps_of_withdrawn (h : c.Withdrawn k) : Sweeps policy (· = k) c c :=
  (Sweeps.refl policy c).widen (fun _ => False.elim) fun _ hk => hk ▸ h

theorem sweeps_mark (now : Timestamp) (ho : c.object? k = some o) (hne : o.metadata.finalizerList ≠ [])
    (hlive : o.metadata.isTerminating = false) : Sweeps policy (· = k) c (c.put k (o.markedAt now)) where
  settings := ⟨rfl, rfl, rfl, rfl⟩
  objects k' := by
    rw [object?_put]
    split
    · next h => exact .inr ⟨⟨k, rfl, h ▸ .refl⟩, o, h ▸ ho, .marked now hne hlive⟩
    · exact .inl rfl
  targets k' hk' := by
    subst hk'
    intro o' ho'
    rw [object?_put, if_pos rfl] at ho'
    cases ho'
    exact ⟨hne, rfl⟩
  spreads k₁ k₂ hk hnone := by
    rw [object?_put] at hnone
    split at hnone
    · cases hnone
    · exact absurd hnone hk.isSome

/-- Removing an object and then sweeping what it owned. -/
theorem sweeps_drop (ho : c.object? k = some o) (hfin : o.metadata.finalizerList = [])
    (h : Sweeps policy T (c.drop k) c') (hT : ∀ t, T t → c.Cascades policy k t)
    (hall : ∀ k', k' ≠ k → c.Cascades policy k k' → T k') : Sweeps policy (· = k) c c' := by
  have hkept {k' : Key} (hne : k' ≠ k) : (c.drop k).object? k' = c.object? k' := by rw [object?_drop, if_neg hne]
  have hgone : c'.object? k = none := h.none_of_none (by rw [object?_drop, if_pos rfl])
  have hmono {k₁ k₂ : Key} (hk : (c.drop k).Cascades policy k₁ k₂) : c.Cascades policy k₁ k₂ := by
    obtain ⟨hpol, ⟨o₁, o₂, ho₁, ho₂, hr⟩, hfin⟩ := hk
    have hne₁ : k₁ ≠ k := by rintro rfl; rw [object?_drop, if_pos rfl] at ho₁; cases ho₁
    have hne₂ : k₂ ≠ k := by rintro rfl; rw [object?_drop, if_pos rfl] at ho₂; cases ho₂
    rw [hkept hne₁] at ho₁ hfin
    rw [hkept hne₂] at ho₂
    exact ⟨hpol, ⟨o₁, o₂, ho₁, ho₂, hr⟩, hfin⟩
  refine ⟨⟨h.settings.served, h.settings.rules, h.settings.listRefusals, h.settings.deleteRefusals⟩, fun k' => ?_,
    fun k' hk' => withdrawn_of_none (hk' ▸ hgone), fun k₁ k₂ hk hnone => ?_⟩
  · by_cases heq : k' = k
    · subst heq
      rw [hgone]
      exact .inr ⟨⟨k', rfl, .refl⟩, o, ho, .removed hfin⟩
    · rw [← hkept heq]
      exact (h.objects k').imp_right fun ⟨⟨t, ht, hr⟩, hdel⟩ =>
        ⟨⟨k, rfl, .head (hT t ht) (ReflTransGen.mono (fun _ _ => hmono) _ _ hr)⟩, hdel⟩
  · by_cases heq₂ : k₂ = k
    · exact withdrawn_of_none (heq₂ ▸ hgone)
    · by_cases heq₁ : k₁ = k
      · subst heq₁
        exact h.targets k₂ (hall k₂ heq₂ hk)
      · obtain ⟨hpol, ⟨o₁, o₂, ho₁, ho₂, hr⟩, hfin⟩ := hk
        rw [← hkept heq₁] at ho₁ hfin
        rw [← hkept heq₂] at ho₂
        exact h.spreads k₁ k₂ ⟨hpol, ⟨o₁, o₂, ho₁, ho₂, hr⟩, hfin⟩ hnone

/-- The keys of the objects whose deletion follows the removal of `o`. -/
def dependentsOf (policy : Propagation) (o : Object) (c : Cluster) : List Key :=
  match policy, o.metadata.uid with
  | .orphan, _ | _, none => []
  | _, some uid => c.dependents uid

/-- They are what the removal reaches in one step, as far as it is left. -/
theorem mem_dependentsOf_drop (ho : c.object? k = some o) (hfin : o.metadata.finalizerList = []) :
    k' ∈ (c.drop k).dependentsOf policy o ↔ k' ≠ k ∧ c.Cascades policy k k' := by
  constructor
  · intro hmem
    unfold dependentsOf at hmem
    split at hmem
    · cases hmem
    · cases hmem
    next uid hpol huid =>
      obtain ⟨o', ho', r, hr, hruid⟩ := mem_dependents.mp hmem
      rw [object?_drop] at ho'
      split at ho'
      · cases ho'
      next hne =>
        refine ⟨hne, hpol, ⟨o, o', ho, ho', r, hr, hruid ▸ huid⟩, fun o₁ ho₁ => ?_⟩
        cases ho.symm.trans ho₁
        exact hfin
  · rintro ⟨hne, hpol, ⟨o₁, o', ho₁, ho', r, hr, huid⟩, -⟩
    cases ho.symm.trans ho₁
    unfold dependentsOf
    rw [huid]
    split
    · next horphan _ => exact absurd rfl hpol
    · next hnone => cases hnone
    next uid _ heq =>
      cases heq
      exact mem_dependents.mpr ⟨o', by rw [object?_drop, if_neg hne, ho'], r, hr, rfl⟩

theorem deleteWithin_of_free {now : Timestamp} {depth : Nat} (ho : c.object? k = some o)
    (hfin : o.metadata.finalizerList = []) : c.deleteWithin now policy (depth + 1) k =
      ((c.drop k).dependentsOf policy o).foldl (fun c k => c.deleteWithin now policy depth k) (c.drop k) := by
  rw [deleteWithin, ho]
  dsimp only
  rw [if_neg (not_not.mpr hfin)]
  unfold dependentsOf
  cases policy <;> cases o.metadata.uid <;> rfl

/-- The deletion of the objects under some keys, one after another, leaves `c'` behind. The deletion of what a removed
    object owned is nested in its removal, and nothing limits how deep. -/
inductive Deletes (now : Timestamp) (policy : Propagation) : List Key → Cluster → Cluster → Prop
  /-- Nothing more is to be deleted. -/
  | done {c : Cluster} : Deletes now policy [] c c
  /-- No object is there, or one that only its finalizers keep. -/
  | passes {k : Key} {ks : List Key} {c c' : Cluster} (withdrawn : c.Withdrawn k) (rest : Deletes now policy ks c c') :
    Deletes now policy (k :: ks) c c'
  /-- Finalizers hold the object back. -/
  | marks {k : Key} {ks : List Key} {c c' : Cluster} {o : Object} (stored : c.object? k = some o)
    (held : o.metadata.finalizerList ≠ []) (live : o.metadata.isTerminating = false)
    (rest : Deletes now policy ks (c.put k (o.markedAt now)) c') : Deletes now policy (k :: ks) c c'
  /-- The object is removed, and then what it owned is deleted. -/
  | removes {k : Key} {ks : List Key} {c c₁ c' : Cluster} {o : Object} (stored : c.object? k = some o)
    (free : o.metadata.finalizerList = [])
    (nested : Deletes now policy ((c.drop k).dependentsOf policy o) (c.drop k) c₁)
    (rest : Deletes now policy ks c₁ c') : Deletes now policy (k :: ks) c c'

theorem Sweeps.cons {ks : List Key} (h : Sweeps policy (· = k) c c₁) (hs : Sweeps policy (· ∈ ks) c₁ c') :
    Sweeps policy (· ∈ k :: ks) c c' :=
  (h.trans hs).widen (fun _ => List.mem_cons.mpr) fun t ht => (h.trans hs).targets t (List.mem_cons.mp ht)

namespace Deletes
variable {now : Timestamp} {ks : List Key}

theorem sweeps (h : Deletes now policy ks c c') : Sweeps policy (· ∈ ks) c c' := by
  induction h with
  | done => exact (Sweeps.refl policy _).widen (fun _ => False.elim) fun _ hk => absurd hk List.not_mem_nil
  | passes withdrawn _ ih => exact (sweeps_of_withdrawn withdrawn).cons ih
  | marks stored held live _ ih => exact (sweeps_mark now stored held live).cons ih
  | removes stored free _ _ nested rest =>
    refine (sweeps_drop stored free nested (fun t ht => ?_) fun t hne ht => ?_).cons rest
    · exact ((mem_dependentsOf_drop stored free).mp ht).2
    · exact (mem_dependentsOf_drop stored free).mpr ⟨hne, ht⟩

/-- Deletions give out no UIDs. -/
theorem uids (h : Deletes now policy ks c c') : c'.uids = c.uids := by
  induction h with
  | done => rfl
  | passes _ _ ih => exact ih
  | marks _ _ _ _ ih => exact ih
  | removes _ _ _ _ nested rest => exact rest.trans nested

/-- How a deletion goes on is settled by what is stored. -/
theorem unique {c'' : Cluster} (h : Deletes now policy ks c c') (h' : Deletes now policy ks c c'') : c'' = c' := by
  induction h generalizing c'' with
  | done =>
    cases h'
    rfl
  | passes withdrawn _ ih =>
    cases h' with
    | passes _ rest => exact ih rest
    | marks stored _ live => cases live.symm.trans (withdrawn _ stored).2
    | removes stored free => exact absurd free (withdrawn _ stored).1
  | marks stored held live _ ih =>
    cases h' with
    | passes withdrawn => cases live.symm.trans (withdrawn _ stored).2
    | marks stored' _ _ rest =>
      cases stored.symm.trans stored'
      exact ih rest
    | removes stored' free =>
      cases stored.symm.trans stored'
      exact absurd free held
  | removes stored free _ _ ihNested ihRest =>
    cases h' with
    | passes withdrawn => exact absurd free (withdrawn _ stored).1
    | marks stored' held =>
      cases stored.symm.trans stored'
      exact absurd free held
    | removes stored' _ nested rest =>
      cases stored.symm.trans stored'
      cases ihNested nested
      exact ihRest rest

/-- A deletion of one key after another, each of which comes to its end. -/
theorem foldl {f : Cluster → Key → Cluster} {n : Nat} (hf : ∀ {c k ks c'}, c.objects.length < n →
      Deletes now policy ks (f c k) c' → Deletes now policy (k :: ks) c c') :
    ∀ (ks : List Key) {c : Cluster}, c.objects.length < n → Deletes now policy ks c (ks.foldl f c)
  | [], _, _ => done
  | _ :: ks, _, hlen => hf hlen (foldl hf ks (Nat.lt_of_le_of_lt (hf hlen done).sweeps.length_le hlen))

/-- A depth beyond the number of objects never cuts a deletion short. -/
theorem deleteWithin : ∀ {depth : Nat} {c : Cluster} {k : Key} {ks : List Key} {c' : Cluster}, c.objects.length < depth →
    Deletes now policy ks (c.deleteWithin now policy depth k) c' → Deletes now policy (k :: ks) c c'
  | 0, _, _, _, _, hlen, _ => absurd hlen (Nat.not_lt_zero _)
  | depth + 1, c, k, _, _, hlen, rest => by
    cases ho : c.object? k with
    | none =>
      rw [Cluster.deleteWithin, ho] at rest
      exact passes (withdrawn_of_none ho) rest
    | some o =>
      by_cases hfin : o.metadata.finalizerList = []
      · have hlen' : (c.drop k).objects.length < depth := by have := length_drop_lt ho; omega
        rw [deleteWithin_of_free ho hfin] at rest
        exact removes ho hfin (foldl deleteWithin _ hlen') rest
      · rw [Cluster.deleteWithin, ho] at rest
        dsimp only at rest
        rw [if_pos hfin] at rest
        split at rest
        · next hterm =>
          refine passes (fun o' ho' => ?_) rest
          cases ho.symm.trans ho'
          exact ⟨hfin, hterm⟩
        · next hlive => exact marks ho hfin (by simpa using hlive) rest

end Deletes

/-- A deletion comes to its end. -/
theorem deletes_remove (now : Timestamp) (policy : Propagation) (k : Key) (c : Cluster) :
    Deletes now policy [k] c (c.remove now policy k) :=
  Deletes.deleteWithin (Nat.lt_succ_self _) .done

theorem remove_sweeps (now : Timestamp) (policy : Propagation) (k : Key) (c : Cluster) :
    Sweeps policy (· = k) c (c.remove now policy k) :=
  have h := (deletes_remove now policy k c).sweeps
  h.widen (fun _ => List.mem_singleton.mp) fun t ht => h.targets t (List.mem_singleton.mpr ht)

end
end Cluster
end PlatformOperator
