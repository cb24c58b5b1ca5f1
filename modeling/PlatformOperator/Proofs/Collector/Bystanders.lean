import PlatformOperator.Proofs.Cluster.Identity
import PlatformOperator.Proofs.Collector.Settled
import PlatformOperator.Proofs.Collector.Spread

/-! A pass of the collector next to one in the same cluster without some of its terminating objects, which own nothing
    that is left. The two make the same calls and have the same answers, unless the choice of objects fails on an
    object that only the first of them finds. -/

namespace PlatformOperator
open Relation

namespace Cluster

/-- The cluster without the objects under the keys. -/
def without (ks : List Key) (c : Cluster) : Cluster :=
  { c with objects := c.objects.filter fun p => p.1 ∉ ks, ascending := c.ascending.filter _ }

/-- What is left in `c'` is as it was in `c`, or was marked at `now`. -/
def MarksAt (now : Timestamp) (c c' : Cluster) : Prop :=
  ∀ k o', c'.object? k = some o' → ∃ o, c.object? k = some o ∧ (o' = o ∨ o' = o.markedAt now)

/-- `c'` is what deletions left of `c`. -/
def Swept (policy : Propagation) (c c' : Cluster) : Prop := ∃ T, c.Sweeps policy T c'

/-- What is true of a cluster stays true under deletions. -/
def Lasting (policy : Propagation) (Q : Cluster → Prop) : Prop :=
  ∀ ⦃c c' : Cluster⦄ ⦃T : Key → Prop⦄, c.Sweeps policy T c' → Q c → Q c'

/-- Of the objects under the keys none but those in `D` are left, and they own nothing else. -/
structure Bystanders (ks : List Key) (D : Object → Prop) (c : Cluster) : Prop where
  within : ∀ k ∈ ks, ∀ o, c.object? k = some o → D o
  childless : ∀ k ∈ ks, ∀ k', c.Owns k k' → k' ∈ ks

section
variable {ks : List Key} {D : Object → Prop} {c c' c₁ : Cluster} {now : Timestamp} {policy : Propagation}
  {T : Key → Prop} {k k' t : Key} {o : Object}

/-! ### One deletion -/

theorem MarksAt.refl (now : Timestamp) (c : Cluster) : c.MarksAt now c := fun _ o' ho' => ⟨o', ho', .inl rfl⟩

theorem MarksAt.trans (h : c.MarksAt now c₁) (h' : c₁.MarksAt now c') : c.MarksAt now c' := by
  intro k o' ho'
  obtain ⟨o₁, ho₁, hmark'⟩ := h' k o' ho'
  obtain ⟨o, ho, hmark⟩ := h k o₁ ho₁
  refine ⟨o, ho, ?_⟩
  obtain rfl | rfl := hmark'
  · exact hmark
  · obtain rfl | rfl := hmark
    · exact .inr rfl
    · exact .inr rfl

theorem Deletes.marksAt {ks : List Key} (h : Deletes now policy ks c c') : c.MarksAt now c' := by
  induction h with
  | done => exact .refl now _
  | passes _ _ ih => exact ih
  | @marks k _ _ _ o stored _ _ _ ih =>
    refine MarksAt.trans (fun k' o' ho' => ?_) ih
    rw [object?_put] at ho'
    split at ho'
    · next heq =>
      cases ho'
      exact ⟨o, heq ▸ stored, .inr rfl⟩
    · exact ⟨o', ho', .inl rfl⟩
  | removes _ _ _ _ nested rest =>
    refine MarksAt.trans (fun k' o' ho' => ?_) (nested.trans rest)
    rw [object?_drop] at ho'
    split at ho'
    · cases ho'
    · exact ⟨o', ho', .inl rfl⟩

/-- Where no object is, nothing is deleted. -/
theorem remove_of_none (hnone : c.object? k = none) (now : Timestamp) (policy : Propagation) :
    c.remove now policy k = c := by
  rw [remove, deleteWithin, hnone]

/-- An object that a deletion changes is gone, or marked with the time if finalizers hold it. -/
theorem object?_remove_of_ne (ho : c.object? k' = some o) (hne : (c.remove now policy k).object? k' ≠ some o) :
    (c.remove now policy k).object? k' = if o.metadata.finalizerList = [] then none else some (o.markedAt now) := by
  obtain heq | ⟨-, o', ho', hdel⟩ := (remove_sweeps now policy k c).objects k'
  · exact absurd (heq.trans ho) hne
  cases ho.symm.trans ho'
  generalize hx : (c.remove now policy k).object? k' = x at hne hdel
  cases hdel with
  | removed hnil => rw [if_pos hnil]
  | marked now' hfin _ =>
    obtain ⟨o', ho', hmark⟩ := (deletes_remove now policy k c).marksAt k' _ hx
    cases ho.symm.trans ho'
    rw [if_neg hfin, hmark.resolve_left fun heq => hne (congrArg some heq)]

theorem object?_without (ks : List Key) (c : Cluster) (k : Key) :
    (c.without ks).object? k = if k ∈ ks then none else c.object? k := by
  ext o
  rw [← mem_objects]
  show (k, o) ∈ c.objects.filter _ ↔ _
  rw [List.mem_filter, mem_objects]
  split <;> simp_all

theorem sameSettings_without (ks : List Key) (c : Cluster) : c.SameSettings (c.without ks) := ⟨rfl, rfl, rfl, rfl⟩

theorem object?_without_of_not_mem (hk : k ∉ ks) : (c.without ks).object? k = c.object? k := by
  rw [object?_without, if_neg hk]

theorem owns_without : (c.without ks).Owns k k' ↔ k ∉ ks ∧ k' ∉ ks ∧ c.Owns k k' := by
  simp only [Owns, object?_without]
  by_cases hk : k ∈ ks <;> by_cases hk' : k' ∈ ks <;> simp [hk, hk']

theorem cascades_without : (c.without ks).Cascades policy k k' ↔ k ∉ ks ∧ k' ∉ ks ∧ c.Cascades policy k k' := by
  simp only [Cascades, owns_without]
  constructor
  · rintro ⟨hpol, ⟨hk, hk', howns⟩, hfin⟩
    rw [object?_without_of_not_mem hk] at hfin
    exact ⟨hk, hk', hpol, howns, hfin⟩
  · rintro ⟨hk, hk', hpol, howns, hfin⟩
    rw [object?_without_of_not_mem hk]
    exact ⟨hpol, ⟨hk, hk', howns⟩, hfin⟩

/-- What deletion reaches outside the keys it reaches without the objects under them. -/
theorem reaches_without (childless : ∀ k ∈ ks, ∀ k', c.Owns k k' → k' ∈ ks) (hk : k ∉ ks) :
    ReflTransGen ((c.without ks).Cascades policy) t k ↔ ReflTransGen (c.Cascades policy) t k := by
  refine ⟨ReflTransGen.mono (fun _ _ h => (cascades_without.mp h).2.2) t k, fun hreach => ?_⟩
  induction hreach with
  | refl => exact .refl
  | @tail k₁ k₂ _ hstep ih =>
    have hk₁ : k₁ ∉ ks := fun hk₁ => hk (childless k₁ hk₁ k₂ hstep.2.1)
    exact (ih hk₁).tail (cascades_without.mpr ⟨hk₁, hk, hstep⟩)

theorem withdrawn_without (hk : k ∉ ks) : (c.without ks).Withdrawn k ↔ c.Withdrawn k := by
  rw [Withdrawn, Withdrawn, object?_without_of_not_mem hk]

/-- A deletion does the same to the other objects, whether or not those under the keys are there. -/
theorem remove_without (childless : ∀ k ∈ ks, ∀ k', c.Owns k k' → k' ∈ ks) (now : Timestamp) (policy : Propagation)
    (k : Key) : (c.without ks).remove now policy k = (c.remove now policy k).without ks := by
  have hs := remove_sweeps now policy k c
  have hs' := remove_sweeps now policy k (c.without ks)
  have huids (c : Cluster) : (c.remove now policy k).uids = c.uids := (deletes_remove now policy k c).uids
  have hset : ((c.remove now policy k).without ks).SameSettings ((c.without ks).remove now policy k) :=
    (hs.settings.trans (sameSettings_without ks _)).symm.trans ((sameSettings_without ks c).trans hs'.settings)
  refine ext_object? hset ((huids _).trans (huids c).symm) fun k' => ?_
  rw [object?_without]
  split
  · next hk => exact hs'.none_of_none (by rw [object?_without, if_pos hk])
  next hk =>
  have hsame : (c.without ks).object? k' = c.object? k' := object?_without_of_not_mem hk
  cases ho : c.object? k' with
  | none => rw [hs.none_of_none ho, hs'.none_of_none (hsame.trans ho)]
  | some o =>
    have hkept : ((c.without ks).remove now policy k).object? k' = some o ↔
        (c.remove now policy k).object? k' = some o := by
      rw [hs.kept_iff ho, hs'.kept_iff (hsame.trans ho)]
      simp only [reaches_without childless hk, withdrawn_without hk]
    by_cases hstays : (c.remove now policy k).object? k' = some o
    · rw [hstays, hkept.mpr hstays]
    · rw [object?_remove_of_ne ho hstays, object?_remove_of_ne (hsame.trans ho) (mt hkept.mp hstays)]

/-- A call to delete comes to the same. It is only that one of the objects under the keys, which lacks afterwards, is
    not found where it was lacking before. -/
theorem delete_without (childless : ∀ k ∈ ks, ∀ k', c.Owns k k' → k' ∈ ks) (now : Timestamp) (r : ApiResource)
    («namespace» : Option String) (name : String) (policy : Propagation) :
    (c.without ks).delete now r «namespace» name policy = (c.delete now r «namespace» name policy).map (without ks) ∨
      (c.without ks).delete now r «namespace» name policy = .error (.notFound r.kind name) ∧
        ∃ c', c.delete now r «namespace» name policy = .ok c' ∧ c'.without ks = c.without ks := by
  have hrefusals : (c.without ks).deleteRefusals = c.deleteRefusals := rfl
  simp only [delete, hrefusals, remove_without childless]
  cases c.deleteRefusals.lookup r.kind with
  | some refusal => exact .inl rfl
  | none =>
    dsimp only
    by_cases hk : Key.ofResource r «namespace» name ∈ ks
    · have hgone : (c.without ks).object? (.ofResource r «namespace» name) = none := by rw [object?_without, if_pos hk]
      rw [hgone, Option.isSome_none, if_neg Bool.false_ne_true]
      split
      · exact .inr ⟨rfl, _, rfl, (remove_without childless ..).symm.trans (remove_of_none hgone now policy)⟩
      · exact .inl rfl
    · rw [object?_without_of_not_mem hk]
      refine .inl ?_
      split <;> rfl

/-- A type is listed without the objects under the keys, or it cannot be listed. -/
theorem list_without (ks : List Key) (c : Cluster) (r : ApiResource) (selector : Option String) :
    (∃ e, c.list r none selector = .error e ∧ (c.without ks).list r none selector = .error e) ∨
      ∃ ps : List (Key × Object), c.list r none selector = .ok (ps.map (·.2)) ∧
        (c.without ks).list r none selector = .ok ((ps.filter (·.1 ∉ ks)).map (·.2)) ∧
          ∀ p ∈ ps, c.object? p.1 = some p.2 := by
  have hrefusals : (c.without ks).listRefusals = c.listRefusals := rfl
  have hobjects : (c.without ks).objects = c.objects.filter (·.1 ∉ ks) := rfl
  simp only [list, hrefusals, hobjects]
  cases c.listRefusals.lookup r.kind with
  | some refusal => exact .inl ⟨_, rfl, rfl⟩
  | none =>
    refine .inr ⟨_, rfl, ?_, fun p hp => mem_objects.mp (List.mem_filter.mp hp).1⟩
    simp only [List.filter_filter, Bool.and_comm]

/-! ### Further deletions -/

theorem Swept.refl (policy : Propagation) (c : Cluster) : c.Swept policy c := ⟨_, .refl policy c⟩

theorem lasting_swept (policy : Propagation) (c : Cluster) : Lasting policy (c.Swept policy) :=
  fun _ _ _ hs ⟨_, h⟩ => ⟨_, h.trans hs⟩

theorem lasting_bystanders (terminating : ∀ o, D o → o.metadata.isTerminating = true) :
    Lasting policy (Bystanders ks D) := fun _ _ _ hs h => {
  within := fun k hk o ho => by
    obtain ⟨o₀, ho₀, rfl | hdel⟩ := hs.before ho
    · exact h.within k hk o ho₀
    · cases hdel with
      | marked now _ hlive => cases hlive.symm.trans (terminating o₀ (h.within k hk o₀ ho₀))
  childless := fun k hk k' ⟨o, p, ho, hp, r, hr, huid⟩ => by
    obtain ⟨o₀, ho₀, ho_same⟩ := hs.before ho
    obtain ⟨p₀, hp₀, hp_same⟩ := hs.before hp
    exact h.childless k hk k' ⟨o₀, p₀, ho₀, hp₀, r, hp_same.same.2.1 ▸ hr, ho_same.same.2.2 ▸ huid⟩ }

/-- Deletions that follow on others concern objects that were left alone so far. -/
theorem Swept.same_or_unchanged (hs : c.Swept policy c₁) (hs' : (c₁.without ks).Swept policy c') (hk : k ∉ ks) :
    c'.object? k = c₁.object? k ∨ c₁.object? k = c.object? k := by
  obtain ⟨T, hs⟩ := hs
  obtain ⟨T', hs'⟩ := hs'
  obtain heq | ⟨-, o, ho, hdel'⟩ := hs'.objects k
  · exact .inl (heq.trans (object?_without_of_not_mem hk))
  rw [object?_without_of_not_mem hk] at ho
  refine .inr ((hs.objects k).resolve_right ?_)
  rintro ⟨-, o₀, -, hdel⟩
  rw [ho] at hdel
  exact hdel.not_again hdel'

end
end Cluster

/-! ### Calls in both worlds -/

/-- The world without the objects under the keys. -/
def World.without (ks : List Key) (w : World) : World := { w with cluster := w.cluster.without ks }

/-- At `w` the computation does the same whether or not the objects under the keys are there. -/
def Op.Ignores {ε α : Type} (ks : List Key) (w : World) (x : Op ε α) : Prop :=
  x (w.without ks) = ((x w).1, (x w).2.without ks)

namespace Op.Ignores
variable {ε ε' α β : Type} {ks : List Key} {w : World} {x : Op ε α}

theorem bind {f : α → Op ε β} (hx : x.Ignores ks w) (hf : ∀ a w₁, x w = (.ok a, w₁) → (f a).Ignores ks w₁) :
    (x >>= f).Ignores ks w := by
  unfold Ignores at hx ⊢
  rcases h : x w with ⟨e | a, w₁⟩ <;> rw [h] at hx
  · rw [Computation.bind_error h, Computation.bind_error hx]
  · rw [Computation.bind_ok h, Computation.bind_ok hx]
    exact hf a w₁ h

theorem outcome (hx : x.Ignores ks w) : (Op.outcome x : Op ε' _).Ignores ks w :=
  (Op.outcome_eq hx).trans (congrArg (fun p : _ × World => (p.1, p.2.without ks)) (Op.outcome_eq rfl).symm)

end Op.Ignores

namespace World
variable {ks : List Key} {w : World} {r : ApiResource} {«namespace» : Option String} {name : String}

theorem begin_ignores (quiet : w.Quiet) (call : Call) : (begin call).Ignores ks w := by
  have quiet' : (w.without ks).Quiet := quiet
  unfold Op.Ignores
  rw [begin_quiet quiet, begin_quiet quiet']
  rfl

/-- A call to delete is answered in the same way, or in the second world the object is not found. -/
theorem delete_without (quiet : w.Quiet) (childless : ∀ k ∈ ks, ∀ k', w.cluster.Owns k k' → k' ∈ ks) (r : ApiResource)
    («namespace» : Option String) (name : String) (policy : Propagation) :
    (delete r «namespace» name policy).Ignores ks w ∨
      ∃ w₁, delete r «namespace» name policy w = (.ok (), w₁) ∧
        delete r «namespace» name policy (w.without ks) = (.error (.notFound r.kind name), w₁.without ks) := by
  let call := Call.delete r «namespace» name policy
  have hbegin := begin_quiet quiet call
  have hbegin' : begin call (w.without ks) = _ := begin_ignores quiet call
  rw [hbegin] at hbegin'
  unfold Op.Ignores delete
  cases hstrike : (strike call w.faults).1 with
  | some e =>
    rw [hstrike] at hbegin hbegin'
    rw [Computation.bind_error hbegin, Computation.bind_error hbegin']
    exact .inl rfl
  | none =>
    rw [hstrike] at hbegin hbegin'
    rw [Computation.bind_ok hbegin, Computation.bind_ok hbegin']
    simp only [change, without, struck_cluster]
    -- Both worlds read the clock, whether or not there is something to delete.
    rcases w.cluster.delete_without childless (w.struck call).clock.next r «namespace» name policy with
      hsame | ⟨hmissing, c', hc', hleft⟩
    · rw [hsame]
      refine .inl ?_
      cases w.cluster.delete (w.struck call).clock.next r «namespace» name policy <;> rfl
    · rw [hmissing, hc']
      exact .inr ⟨_, rfl, by rw [← hleft]; rfl⟩

/-- A type is listed in both worlds or in neither, and without the objects under the keys in the second one. -/
theorem list_without (quiet : w.Quiet) (ks : List Key) (r : ApiResource) (selector : Option String) :
    let w₁ := w.struck (.list r none selector)
    (∃ e, list r none selector w = (.error e, w₁) ∧ list r none selector (w.without ks) = (.error e, w₁.without ks)) ∨
      ∃ ps : List (Key × Object), list r none selector w = (.ok (ps.map (·.2)), w₁) ∧
        list r none selector (w.without ks) = (.ok ((ps.filter (·.1 ∉ ks)).map (·.2)), w₁.without ks) ∧
          ∀ p ∈ ps, w.cluster.object? p.1 = some p.2 := by
  intro w₁
  have hbegin := begin_quiet quiet (.list r none selector)
  have hbegin' : begin _ (w.without ks) = _ := begin_ignores quiet (.list r none selector)
  rw [hbegin] at hbegin'
  cases hstrike : (strike (.list r none selector) w.faults).1 with
  | some e =>
    rw [hstrike] at hbegin hbegin'
    exact .inl ⟨e, Computation.bind_error hbegin, Computation.bind_error hbegin'⟩
  | none =>
    rw [hstrike] at hbegin hbegin'
    have hlist : list r none selector w = (w.cluster.list r none selector, w₁) := Computation.bind_ok hbegin
    have hlist' : list r none selector (w.without ks) = ((w.cluster.without ks).list r none selector, w₁.without ks) :=
      Computation.bind_ok hbegin'
    rw [hlist, hlist']
    obtain ⟨e, he, he'⟩ | ⟨ps, hps, hps', hstored⟩ := w.cluster.list_without ks r selector
    · exact .inl ⟨e, by rw [he], by rw [he']⟩
    · exact .inr ⟨ps, by rw [hps], by rw [hps'], hstored⟩

end World

/-! ### Passes in both worlds -/

namespace Engine
open Cluster
variable {options : PassOptions} {policy : Propagation} {t : CatalogType} {w w' : World} {ks : List Key}
  {D : Object → Prop} {Q : Cluster → Prop} {o : Object} {os : List Object} {n : Nat}

/-- An object that is not found counts as deleted. -/
theorem deleteObject_ignores (quiet : w.Quiet) (childless : ∀ k ∈ ks, ∀ k', w.cluster.Owns k k' → k' ∈ ks)
    (t : CatalogType) (o : Object) (policy : Propagation) : (deleteObject t o policy).Ignores ks w := by
  rcases World.delete_without quiet childless t.apiResource o.metadata.namespace o.name policy with
    hsame | ⟨w₁, hdeleted, hmissing⟩
  · refine hsame.outcome.bind fun deleted w₁ _ => ?_
    rcases deleted with e | ⟨⟩
    · dsimp only
      split <;> rfl
    · rfl
  · unfold Op.Ignores deleteObject
    rw [Computation.bind_ok (Op.outcome_eq hdeleted), Computation.bind_ok (Op.outcome_eq hmissing)]
    rfl

/-- What listing a type comes to, given the answer. -/
def listingResult (t : CatalogType) : Except ApiError (List Object) → Except CollectError (List Object)
  | .ok os => .ok os
  | .error e =>
    if e.isForbidden || e.isMethodNotAllowed || e.isNotFound then .ok [] else .error (.listResources e t.text)

theorem listObjects_eq {listed : Except ApiError (List Object)}
    (h : World.list t.apiResource none options.selector w = (listed, w')) :
    listObjects options t w = (listingResult t listed, w') := by
  rw [listObjects, Computation.bind_ok (Op.outcome_eq h)]
  cases listed with
  | ok os => rfl
  | error e =>
    dsimp only [listingResult]
    split <;> rfl

/-- Listing fails in both worlds, or the objects under the keys lack in the second one. -/
theorem listObjects_without (quiet : w.Quiet) (ks : List Key) (options : PassOptions) (t : CatalogType) :
    let w₁ := w.struck (.list t.apiResource none options.selector)
    (∃ e, listObjects options t w = (.error e, w₁) ∧ listObjects options t (w.without ks) = (.error e, w₁.without ks)) ∨
      ∃ ps : List (Key × Object), listObjects options t w = (.ok (ps.map (·.2)), w₁) ∧
        listObjects options t (w.without ks) = (.ok ((ps.filter (·.1 ∉ ks)).map (·.2)), w₁.without ks) ∧
          ∀ p ∈ ps, w.cluster.object? p.1 = some p.2 := by
  intro w₁
  obtain ⟨e, h, h'⟩ | ⟨ps, h, h', hps⟩ := World.list_without quiet ks t.apiResource options.selector
  · rw [listObjects_eq h, listObjects_eq h', listingResult]
    split
    · exact .inr ⟨[], rfl, rfl, List.forall_mem_nil _⟩
    · exact .inl ⟨_, rfl, rfl⟩
  · exact .inr ⟨ps, listObjects_eq h, listObjects_eq h', hps⟩

theorem deleteObject_keeps (lasting : Lasting policy Q) : (deleteObject t o policy).Preserves Q := by
  have hdelete : (World.delete t.apiResource o.metadata.namespace o.name policy).Preserves Q := by
    intro w hw
    rcases World.delete_quiet hw.quiet t.apiResource o.metadata.namespace o.name policy with
      ⟨e, _, hcall⟩ | ⟨c', hc', hcall⟩ <;> rw [hcall]
    · exact ⟨hw.quiet, hw.cluster⟩
    · exact ⟨hw.quiet, lasting (Cluster.delete_ok hc') hw.cluster⟩
  refine hdelete.outcome.bind fun deleted => ?_
  rcases deleted with e | ⟨⟩
  · dsimp only
    split
    · exact .pure _
    · exact .throw _
  · exact .pure _

theorem passObjects_keeps (lasting : Lasting policy Q) : (passObjects options policy t os n).Preserves Q := by
  induction os generalizing n with
  | nil => exact .pure n
  | cons o os ih =>
    rw [passObjects]
    cases options.acceptsObject o with
    | error cause => exact .throw _
    | ok accepted =>
      dsimp only
      split
      · exact (deleteObject_keeps lasting).bind fun _ => ih
      · exact ih

theorem passTypes_keeps (lasting : Lasting policy Q) (ts : List CatalogType) (n : Nat) :
    (passTypes options policy ts n).Preserves Q := by
  induction ts generalizing n with
  | nil => exact .pure n
  | cons t ts ih =>
    rw [passTypes]
    rcases options.acceptsType t with cause | _ | _
    · exact .throw _
    · exact ih n
    · refine Computation.Moves.bind (fun w hw => ?_) fun os => (passObjects_keeps lasting).bind ih
      obtain ⟨hquiet, hsame, -⟩ := listObjects_quiet hw.quiet options t
      exact ⟨hquiet, by rw [hsame]; exact hw.cluster⟩

/-- How a part of a pass goes in a world, and in the one without the objects under the keys: the same way, or it stops
    in the first world where the choice fails on an object in `D`, and goes on in the second one. -/
inductive Compares (options : PassOptions) (policy : Propagation) (ks : List Key) (D : Object → Prop)
    (x x' : Except CollectError Nat × World) : Prop where
  | alike (same : x' = (x.1, x.2.without ks)) (left : x.2.Within (Bystanders ks D))
  | stopped {o : Object} {cause : Cause} (ho : D o) (fails : options.acceptsObject o = .error cause)
    (result : x.1 = .error (.evaluateObjectPredicate cause o.name (o.metadata.namespace.getD "")))
    (left : x'.2.Within ((x.2.cluster.without ks).Swept policy))

theorem Compares.bind {x x' : Op CollectError Nat} {f : Nat → Op CollectError Nat}
    (h : Compares options policy ks D (x w) (x' w'))
    (hf : ∀ m w₁, w₁.Within (Bystanders ks D) → Compares options policy ks D (f m w₁) (f m (w₁.without ks)))
    (hkeeps : ∀ (m : Nat) (c : Cluster), (f m).Preserves (c.Swept policy)) :
    Compares options policy ks D ((x >>= f) w) ((x' >>= f) w') := by
  cases h with
  | alike same left =>
    rcases hx : x w with ⟨e | m, w₁⟩ <;> rw [hx] at same left
    · rw [Computation.bind_error hx, Computation.bind_error same]
      exact .alike rfl left
    · rw [Computation.bind_ok hx, Computation.bind_ok same]
      exact hf m w₁ left
  | stopped ho fails result left =>
    rcases hx : x w with ⟨r, w₁⟩
    rw [hx] at result left
    cases result
    rw [Computation.bind_error hx]
    exact .stopped ho fails rfl (Computation.bind_ends left fun m w₂ _ hw₂ => hkeeps m _ w₂ hw₂)

theorem passObjects_compares (terminating : ∀ o, D o → o.metadata.isTerminating = true) {ps : List (Key × Object)}
    (hps : ∀ p ∈ ps, p.1 ∈ ks → D p.2) (hw : w.Within (Bystanders ks D)) :
    Compares options policy ks D (passObjects options policy t (ps.map (·.2)) n w)
      (passObjects options policy t ((ps.filter (·.1 ∉ ks)).map (·.2)) n (w.without ks)) := by
  induction ps generalizing n w with
  | nil => exact .alike rfl hw
  | cons p ps ih =>
    obtain ⟨hp, hps⟩ := List.forall_mem_cons.mp hps
    rw [List.map_cons]
    by_cases hk : p.1 ∈ ks
    · rw [List.filter_cons_of_neg (by simpa using hk)]
      have hterm := terminating p.2 (hp hk)
      rw [passObjects]
      cases haccepts : options.acceptsObject p.2 with
      | error cause =>
        -- The second pass goes on from where this one stops.
        exact .stopped (hp hk) haccepts rfl (passObjects_keeps (lasting_swept _ _) _ ⟨hw.quiet, .refl _ _⟩)
      | ok accepted =>
        dsimp only
        rw [if_neg (by rw [hterm]; simp)]
        exact ih hps hw
    · rw [List.filter_cons_of_pos (by simpa using hk), List.map_cons, passObjects, passObjects]
      cases options.acceptsObject p.2 with
      | error cause => exact .alike rfl hw
      | ok accepted =>
        dsimp only
        split
        · have hsame := deleteObject_ignores hw.quiet hw.cluster.childless t p.2 policy
          have hleft : (deleteObject t p.2 policy w).2.Within (Bystanders ks D) :=
            deleteObject_keeps (lasting_bystanders terminating) w hw
          unfold Op.Ignores at hsame
          rcases hdelete : deleteObject t p.2 policy w with ⟨e | ⟨⟩, w₁⟩ <;> rw [hdelete] at hsame hleft
          · rw [Computation.bind_error hdelete, Computation.bind_error hsame]
            exact .alike rfl hleft
          · rw [Computation.bind_ok hdelete, Computation.bind_ok hsame]
            exact ih hps hleft
        · exact ih hps hw

theorem passTypes_compares (terminating : ∀ o, D o → o.metadata.isTerminating = true) (ts : List CatalogType) (n : Nat)
    (hw : w.Within (Bystanders ks D)) :
    Compares options policy ks D (passTypes options policy ts n w) (passTypes options policy ts n (w.without ks)) := by
  induction ts generalizing n w with
  | nil => exact .alike rfl hw
  | cons t ts ih =>
    rw [passTypes]
    rcases options.acceptsType t with cause | _ | _
    · exact .alike rfl hw
    · exact ih n hw
    dsimp only
    have hw₁ : (w.struck (.list t.apiResource none options.selector)).Within (Bystanders ks D) := ⟨hw.quiet, hw.cluster⟩
    obtain ⟨e, hlist, hlist'⟩ | ⟨ps, hlist, hlist', hps⟩ := listObjects_without hw.quiet ks options t
    · rw [Computation.bind_error hlist, Computation.bind_error hlist']
      exact .alike rfl hw₁
    rw [Computation.bind_ok hlist, Computation.bind_ok hlist']
    have hps : ∀ p ∈ ps, p.1 ∈ ks → D p.2 := fun p hp hk => hw.cluster.within p.1 hk p.2 (hps p hp)
    exact (passObjects_compares terminating hps hw₁).bind (fun m _ hw₂ => ih m hw₂) fun m _ =>
      passTypes_keeps (lasting_swept _ _) ts m

/-- Terminating objects that own nothing else make no difference to a pass: without them it comes to the same, makes the
    same calls and does the same to all other objects. The one exception is a pass that ends in the failure to choose
    one of them; it did the same as far as it got. -/
theorem run_without (e : Engine) (options : PassOptions) (quiet : w.Quiet)
    (terminating : ∀ k ∈ ks, ∀ o, w.cluster.object? k = some o → o.metadata.isTerminating = true)
    (childless : ∀ k ∈ ks, ∀ k', w.cluster.Owns k k' → k' ∈ ks) :
    let x := e.run options w
    let x' := e.run options (w.without ks)
    x' = (x.1, x.2.without ks) ∨
    ∃ k ∈ ks, ∃ o cause, w.cluster.object? k = some o ∧ options.acceptsObject o = .error cause ∧
      x.1 = .error (.evaluateObjectPredicate cause o.name (o.metadata.namespace.getD "")) ∧
        ∀ k, k ∉ ks → x'.2.cluster.object? k = x.2.cluster.object? k ∨
          x.2.cluster.object? k = w.cluster.object? k := by
  intro x x'
  let D (o : Object) : Prop := o.metadata.isTerminating = true ∧ ∃ k ∈ ks, w.cluster.object? k = some o
  have hw : w.Within (Bystanders ks D) :=
    ⟨quiet, fun k hk o ho => ⟨terminating k hk o ho, k, hk, ho⟩, childless⟩
  have hpass : Compares options (options.propagation.getD e.propagation) ks D x x' :=
    passTypes_compares (fun o ho => ho.1) (e.catalog w) 0 hw
  cases hpass with
  | alike same _ => exact .inl same
  | @stopped o cause ho fails result left =>
    obtain ⟨-, k, hk, hstored⟩ := ho
    have hswept : w.cluster.Swept (options.propagation.getD e.propagation) x.2.cluster :=
      (passTypes_keeps (lasting_swept _ _) (e.catalog w) 0 w ⟨quiet, .refl _ _⟩).cluster
    exact .inr ⟨k, hk, o, cause, hstored, fails, result, fun k hk => hswept.same_or_unchanged left.cluster hk⟩

end Engine

/-! ### Passes with a terminating object -/

namespace Sample

/-- The stale map, which a finalizer holds back. -/
def fading (name generation : String) : Object :=
  (rendered name generation).mapMeta fun m => { m with
    deletionTimestamp := some (Clock.next ⟨0⟩)
    finalizers := some ["example.com/hold"] }

/-- A world whose configuration maps the collector knows to be deletable. -/
def cataloged (objects : List Object) : World where
  cluster := cluster objects
  memory := { catalogs := [(collector.engine.id, [⟨"", "v1", "ConfigMap", "configmaps", .namespaced⟩])] }

/-- A stale map beside one that a finalizer holds back, and another stale one that was renamed in place to the latter. -/
def renamed : World :=
  let w := cataloged [fading "held" "1", rendered "old" "1"]
  { w with cluster := w.cluster.put (configMapKey "moved") (rendered "held" "1") }

/-- How the collector chooses for the second generation of the dashboard. -/
def choice : PassOptions := collector.options (dashboard "d" 2) (GarbageCollector.currentState run.request)

/-- Where the dashboard alone is an owner and is not stored, no object owns another one. -/
theorem not_owns {c : Cluster}
    (h : ∀ p ∈ c.objects, p.2.metadata.uid ≠ some "d" ∧ p.2.metadata.owners.all (·.uid == "d")) (k k' : Key) :
    ¬c.Owns k k' := by
  rintro ⟨o, o', ho, ho', r, hr, huid⟩
  have howner := List.all_eq_true.mp (h (k', o') (Cluster.mem_objects.mpr ho')).2 r hr
  rw [beq_iff_eq.mp howner] at huid
  exact (h (k, o) (Cluster.mem_objects.mpr ho)).1 huid

end Sample

open Sample in
/-- Another map that is waiting for its finalizer changes nothing about the deletion of a stale one, nor about one that
    tells its key in place of the own one. -/
theorem Engine.run_without_sample :
    let w := renamed
    let x := collector.engine.run choice w
    let x' := collector.engine.run choice (w.without [configMapKey "held"])
    w.Quiet ∧
      (∀ k ∈ [configMapKey "held"], ∀ o, w.cluster.object? k = some o → o.metadata.isTerminating = true) ∧
      (∀ k ∈ [configMapKey "held"], ∀ k', w.cluster.Owns k k' → k' ∈ [configMapKey "held"]) ∧
        x.1.mapError CollectError.kindName = .ok 2 ∧
          x.2.cluster.object? (configMapKey "held") = some (fading "held" "1") ∧
            x.2.cluster.object? (configMapKey "old") = none ∧ x' = (x.1, x.2.without [configMapKey "held"]) := by
  intro w x x'
  have hterminating : ∀ k ∈ [configMapKey "held"], ∀ o, w.cluster.object? k = some o →
      o.metadata.isTerminating = true := by
    intro k hk o ho
    cases List.mem_singleton.mp hk
    have hheld : w.cluster.object? (configMapKey "held") = some (fading "held" "1") := by decide +kernel
    cases hheld.symm.trans ho
    rfl
  have hchildless : ∀ k ∈ [configMapKey "held"], ∀ k', w.cluster.Owns k k' → k' ∈ [configMapKey "held"] :=
    fun k _ k' howns => absurd howns (not_owns (by decide +kernel) k k')
  have hx : x.1.mapError CollectError.kindName = .ok 2 := by decide +kernel
  refine ⟨rfl, hterminating, hchildless, hx, by decide +kernel, by decide +kernel, ?_⟩
  obtain hsame | ⟨-, -, o, cause, -, -, hfails, -⟩ :=
    run_without collector.engine choice (w := w) rfl hterminating hchildless
  · exact hsame
  · have hfails : x.1 = _ := hfails
    rw [hfails] at hx
    cases hx

open Sample in
/-- A map that is waiting for its finalizer, and whose generation cannot be read, keeps a stale map from being
    deleted. -/
theorem Engine.terminating_object_stops_run :
    let w := cataloged [fading "held" "latest", rendered "old" "1"]
    let x := collector.engine.run choice w
    let x' := collector.engine.run choice (w.without [configMapKey "held"])
    w.cluster.object? (configMapKey "held") = some (fading "held" "latest") ∧
      (fading "held" "latest").metadata.isTerminating = true ∧ (∀ k k', ¬w.cluster.Owns k k') ∧
      x.1.mapError CollectError.kindName = .error "EvaluateObjectPredicate" ∧
        x'.1.mapError CollectError.kindName = .ok 1 ∧
          x.2.cluster.object? (configMapKey "old") = some (rendered "old" "1") ∧
            x'.2.cluster.object? (configMapKey "old") = none :=
  ⟨by decide +kernel, rfl, not_owns (by decide +kernel), by decide +kernel, by decide +kernel, by decide +kernel,
    by decide +kernel⟩

end PlatformOperator
