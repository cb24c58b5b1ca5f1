import PlatformOperator.Proofs.Cluster.Cascade

/-! What one deletion makes of each object, whatever refers to whom: owners may form circles, own themselves or share
    what they own. The deletion removes what it reaches along owners that no finalizers hold back, it leaves what they
    do hold back at the end of such a path terminating, and it changes nothing else. -/

namespace PlatformOperator
open Relation

/-- Deletion leaves `x` of the object: nothing, or the object as long as finalizers hold it. That one keeps the deletion
    timestamp it has, or gets its first. -/
def Object.Leaves (o : Object) (x : Option Object) : Prop :=
  if o.metadata.finalizerList = [] then x = none
  else if o.metadata.isTerminating then x = some o
  else ∃ t, x = some (o.markedAt t)

namespace Cluster

/-- An object is at `k`, and no finalizers hold it back. -/
def Free (c : Cluster) (k : Key) : Prop := ∃ o, c.object? k = some o ∧ o.metadata.finalizerList = []

/-- A path leads from owners to what they own, and finalizers hold back no object on it, the two at its ends
    included. -/
inductive FreePath (c : Cluster) (k : Key) : Key → Prop
  | start (free : c.Free k) : FreePath c k k
  | down {k₁ k' : Key} (path : FreePath c k k₁) (owns : c.Owns k₁ k') (free : c.Free k') : FreePath c k k'

section
variable {c c' : Cluster} {policy : Propagation} {T : Key → Prop} {k k' : Key} {o : Object}

theorem FreePath.free (h : c.FreePath k k') : c.Free k' := by
  cases h with
  | start free => exact free
  | down _ _ free => exact free

theorem cascades_iff : c.Cascades policy k k' ↔ policy ≠ .orphan ∧ c.Owns k k' ∧ c.Free k := by
  constructor
  · rintro ⟨hpol, howns, hfin⟩
    obtain ⟨o, -, ho, -⟩ := id howns
    exact ⟨hpol, howns, o, ho, hfin o ho⟩
  · rintro ⟨hpol, howns, o, ho, hfin⟩
    refine ⟨hpol, howns, fun o' ho' => ?_⟩
    cases ho.symm.trans ho'
    exact hfin

/-! ### Paths of a deletion -/

theorem FreePath.reaches (hpol : policy ≠ .orphan) (h : c.FreePath k k') :
    ReflTransGen (c.Cascades policy) k k' := by
  induction h with
  | start => exact .refl
  | down path owns _ ih => exact ih.tail (cascades_iff.mpr ⟨hpol, owns, path.free⟩)

/-- What deletion reaches beyond its target, the end of a free path owns. -/
theorem reaches_iff (hpol : policy ≠ .orphan) :
    ReflTransGen (c.Cascades policy) k k' ↔ k' = k ∨ ∃ k₁, c.FreePath k k₁ ∧ c.Owns k₁ k' := by
  constructor
  · intro h
    induction h with
    | refl => exact .inl rfl
    | @tail k₁ k₂ _ hstep ih =>
      obtain ⟨-, howns, hfree⟩ := cascades_iff.mp hstep
      obtain rfl | ⟨k₀, path, howns₀⟩ := ih
      · exact .inr ⟨k₁, .start hfree, howns⟩
      · exact .inr ⟨k₁, .down path howns₀ hfree, howns⟩
  · rintro (rfl | ⟨k₁, path, howns⟩)
    · exact .refl
    · exact (path.reaches hpol).tail (cascades_iff.mpr ⟨hpol, howns, path.free⟩)

theorem freePath_iff (hpol : policy ≠ .orphan) :
    c.FreePath k k' ↔ ReflTransGen (c.Cascades policy) k k' ∧ c.Free k' := by
  refine ⟨fun path => ⟨path.reaches hpol, path.free⟩, fun ⟨h, hfree⟩ => ?_⟩
  obtain rfl | ⟨k₁, path, howns⟩ := (reaches_iff hpol).mp h
  · exact .start hfree
  · exact .down path howns hfree

/-- Dependents that are orphaned are not reached. -/
theorem eq_of_reaches_orphan (h : ReflTransGen (c.Cascades .orphan) k k') : k' = k := by
  induction h with
  | refl => rfl
  | tail _ hstep => exact absurd rfl (cascades_iff.mp hstep).1

/-! ### Objects of a deletion -/

namespace Sweeps

theorem leaves (h : Sweeps policy (· = k) c c') (hr : ReflTransGen (c.Cascades policy) k k') (ho : c.object? k' = some o) :
    o.Leaves (c'.object? k') := by
  have hwithdrawn : c'.Withdrawn k' := h.reached rfl hr
  unfold Object.Leaves
  rcases h.objects k' with heq | ⟨-, o', ho', hdel⟩
  · obtain ⟨hheld, hterm⟩ := hwithdrawn o (heq.trans ho)
    rw [if_neg hheld, if_pos hterm]
    exact heq.trans ho
  · cases ho.symm.trans ho'
    generalize c'.object? k' = x at hdel
    cases hdel with
    | removed hfree => rw [if_pos hfree]
    | marked t hheld hlive =>
      rw [if_neg hheld, if_neg (by rw [hlive]; exact Bool.false_ne_true)]
      exact ⟨t, rfl⟩

theorem unreached (h : Sweeps policy (· = k) c c') (hr : ¬ReflTransGen (c.Cascades policy) k k') :
    c'.object? k' = c.object? k' := by
  refine (h.objects k').resolve_right ?_
  rintro ⟨⟨t, rfl, hreach⟩, -⟩
  exact hr hreach

/-- Just what is reached and free disappears. -/
theorem gone_iff (h : Sweeps policy (· = k) c c') :
    c.object? k' ≠ none ∧ c'.object? k' = none ↔ ReflTransGen (c.Cascades policy) k k' ∧ c.Free k' := by
  constructor
  · rintro ⟨hsome, hnone⟩
    rcases h.objects k' with heq | ⟨⟨t, rfl, hr⟩, o, ho, hdel⟩
    · exact absurd (heq.symm.trans hnone) hsome
    · rw [hnone] at hdel
      cases hdel with
      | removed hfree => exact ⟨hr, o, ho, hfree⟩
  · rintro ⟨hr, o, ho, hfree⟩
    have hleft := h.leaves hr ho
    rw [Object.Leaves, if_pos hfree] at hleft
    exact ⟨by rw [ho]; exact Option.some_ne_none o, hleft⟩

end Sweeps

/-- A deletion comes to its end, and whichever way dependents go, nothing but objects changes. Unless dependents are
    orphaned, just the objects at the ends of free paths from the target are removed; of the target and of what the
    removed objects owned is left what finalizers hold, terminating; all other objects are as before. If dependents are
    orphaned, this concerns the target alone. -/
theorem remove_exact (now : Timestamp) (policy : Propagation) (k : Key) (c : Cluster) :
    (∀ c', Deletes now policy [k] c c' ↔ c' = c.remove now policy k) ∧
      c.SameSettings (c.remove now policy k) ∧ (c.remove now policy k).uids = c.uids ∧
      (policy ≠ .orphan →
        (∀ k', c.object? k' ≠ none ∧ (c.remove now policy k).object? k' = none ↔ c.FreePath k k') ∧
        (∀ k' o, c.object? k' = some o → (k' = k ∨ ∃ k₁, c.FreePath k k₁ ∧ c.Owns k₁ k') →
          o.Leaves ((c.remove now policy k).object? k')) ∧
        ∀ k', ¬(k' = k ∨ ∃ k₁, c.FreePath k k₁ ∧ c.Owns k₁ k') →
          (c.remove now policy k).object? k' = c.object? k') ∧
      (policy = .orphan →
        (∀ o, c.object? k = some o → o.Leaves ((c.remove now policy k).object? k)) ∧
        ∀ k', k' ≠ k → (c.remove now policy k).object? k' = c.object? k') := by
  have hdel := deletes_remove now policy k c
  have hs := remove_sweeps now policy k c
  refine ⟨fun c' => ⟨hdel.unique, fun h => h ▸ hdel⟩, hs.settings, hdel.uids, fun hpol => ⟨fun k' => ?_, ?_, ?_⟩,
    fun hpol => ⟨fun o ho => hs.leaves .refl ho, fun k' hne => hs.unreached fun hr => ?_⟩⟩
  · exact hs.gone_iff.trans (freePath_iff hpol).symm
  · exact fun k' o ho hmeets => hs.leaves ((reaches_iff hpol).mpr hmeets) ho
  · exact fun k' hnot => hs.unreached (mt (reaches_iff hpol).mp hnot)
  · subst hpol
    exact hne (eq_of_reaches_orphan hr)

end

namespace Tangle

/-- A configuration map with its name as UID. -/
def map (name : String) (owners finalizers : List String) : Object where
  types := some ⟨"v1", "ConfigMap"⟩
  metadata := {
    name := some name
    «namespace» := some "apps"
    uid := some name
    finalizers := some finalizers
    ownerReferences := some (owners.map fun owner => ⟨"v1", "ConfigMap", owner, owner, none, none⟩) }

def key (name : String) : Key := ⟨"", "ConfigMap", some "apps", name⟩

def ending : Object := (map "ending" ["left"] ["example.com/hold"]).markedAt ⟨0, 0⟩

/-- Two maps own each other and one of them itself. Of what they own finalizers hold two maps, and one of these owns
    another map. -/
def cluster : Cluster :=
  [map "left" ["left", "right"] [], map "right" ["left", "aside"] [], map "held" ["right"] ["example.com/hold"], ending,
    map "below" ["held"] [], map "aside" [] []].foldl (fun c o => c.insert o) empty

end Tangle

open Tangle in
theorem remove_exact_sample :
    Propagation.foreground ≠ .orphan ∧
      let c' := cluster.remove ⟨1, 0⟩ .foreground (key "left")
      c'.object? (key "left") = none ∧ c'.object? (key "right") = none ∧
        (∃ t, c'.object? (key "held") = some ((map "held" ["right"] ["example.com/hold"]).markedAt t)) ∧
          c'.object? (key "ending") = some ending ∧ c'.object? (key "below") = some (map "below" ["held"] []) ∧
            c'.object? (key "aside") = some (map "aside" [] []) := by
  obtain ⟨-, -, -, hcascade, -⟩ := remove_exact ⟨1, 0⟩ .foreground (key "left") cluster
  obtain ⟨hremoved, hleaves, hothers⟩ := hcascade (by decide)
  have left : cluster.object? (key "left") = some (map "left" ["left", "right"] []) := by decide +kernel
  have right : cluster.object? (key "right") = some (map "right" ["left", "aside"] []) := by decide +kernel
  have held : cluster.object? (key "held") = some (map "held" ["right"] ["example.com/hold"]) := by decide +kernel
  have hending : cluster.object? (key "ending") = some ending := by decide +kernel
  have below : cluster.object? (key "below") = some (map "below" ["held"] []) := by decide +kernel
  have aside : cluster.object? (key "aside") = some (map "aside" [] []) := by decide +kernel
  have start : cluster.FreePath (key "left") (key "left") := .start ⟨_, left, rfl⟩
  have down : cluster.FreePath (key "left") (key "right") :=
    start.down ⟨_, _, left, right, _, List.mem_cons_self, rfl⟩ ⟨_, right, rfl⟩
  refine ⟨by decide, ((hremoved _).mpr start).2, ((hremoved _).mpr down).2,
    hleaves _ _ held (.inr ⟨_, down, _, _, right, held, _, List.mem_cons_self, rfl⟩),
    hleaves _ _ hending (.inr ⟨_, start, _, _, left, hending, _, List.mem_cons_self, rfl⟩),
    (hothers _ ?_).trans below, (hothers _ ?_).trans aside⟩
  · -- Only the map that finalizers hold owns it.
    rintro (heq | ⟨k₁, path, o, o', ho, ho', r, hr, huid⟩)
    · exact absurd heq (by decide)
    · cases below.symm.trans ho'
      cases List.mem_singleton.mp hr
      obtain ⟨o₁, ho₁, hfree⟩ := path.free
      cases ho.symm.trans ho₁
      have hheld : ∀ p ∈ cluster.objects, p.2.metadata.uid = some "held" → p.2.metadata.finalizerList ≠ [] := by
        decide +kernel
      exact hheld _ (mem_objects.mpr ho) huid hfree
  · rintro (heq | ⟨k₁, -, o, o', -, ho', r, hr, -⟩)
    · exact absurd heq (by decide)
    · cases aside.symm.trans ho'
      cases hr

end Cluster
end PlatformOperator
