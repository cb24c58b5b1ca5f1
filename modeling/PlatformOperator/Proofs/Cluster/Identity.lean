import PlatformOperator.Proofs.Cluster.Calls
import PlatformOperator.Proofs.Object.Patch

/-! UIDs tell objects apart. The cluster counts those it gives out, and as long as no object brings its own, no call
    gives one to a second object: `Sole` says that of one UID, `Apart` of all. -/

namespace PlatformOperator
namespace Cluster

/-- The UID that is given out as the `n`-th. -/
def mintedUid (n : Nat) : String := "uid-" ++ toString n

theorem mintedUid_injective {m n : Nat} (h : mintedUid m = mintedUid n) : m = n := by
  have hdigits : Nat.toDigits 10 m = Nat.toDigits 10 n := by
    have hlist := congrArg String.toList h
    simp only [mintedUid, String.toList_append, List.append_cancel_left_eq] at hlist
    simpa [toString, Nat.repr] using hlist
  rw [← Nat.ofDigitChars_ten_toDigits (n := m), hdigits, Nat.ofDigitChars_ten_toDigits]

/-- The object at `k` has the UID. -/
def Has (c : Cluster) (k : Key) (uid : String) : Prop := ∃ o, c.object? k = some o ∧ o.metadata.uid = some uid

/-- Only objects at the keys `ps` have one of the UIDs, now and in future: none of these is yet to be given out. -/
structure Sole (ps : Key → Prop) (uids : String → Prop) (c : Cluster) : Prop where
  place : ∀ k uid, uids uid → c.Has k uid → ps k
  spent : ∀ n, uids (mintedUid n) → n ≤ c.uids

/-- No two objects have the same UID, now and in future. -/
def Apart (c : Cluster) : Prop := ∀ k uid, c.Has k uid → c.Sole (· = k) (· = uid)

/-- From `c` to `c'` no object got a UID. -/
structure MintsNone (c c' : Cluster) : Prop where
  uids : c'.uids = c.uids
  places : ∀ k uid, c'.Has k uid → c.Has k uid

section
variable {c c₁ c' : Cluster} {k : Key} {uid : String} {ps qs : Key → Prop} {uids vids : String → Prop}
  {o o' : Object} {r : ApiResource} {policy : Propagation} {T : Key → Prop} {now : Timestamp}
  {«namespace» : Option String} {name : String}

theorem apart_of_no_objects (h : c.objects = []) : c.Apart := by
  rintro k uid ⟨o, ho, -⟩
  rw [object?, h] at ho
  cases ho

theorem Sole.union (h : c.Sole ps uids) (h' : c.Sole qs vids) :
    c.Sole (fun k => ps k ∨ qs k) fun uid => uids uid ∨ vids uid where
  place k uid huid hk := huid.imp (h.place k uid · hk) (h'.place k uid · hk)
  spent n hn := hn.elim (h.spent n) (h'.spent n)

theorem Sole.widen (h : c.Sole ps uids) (hsub : ∀ k, ps k → qs k) : c.Sole qs uids :=
  ⟨fun k uid huid hk => hsub k (h.place k uid huid hk), h.spent⟩

namespace MintsNone

theorem sole (h : MintsNone c c') (hsole : c.Sole ps uids) : c'.Sole ps uids where
  place k uid huid hk := hsole.place k uid huid (h.places k uid hk)
  spent n hn := h.uids ▸ hsole.spent n hn

theorem apart (h : MintsNone c c') (hapart : c.Apart) : c'.Apart :=
  fun k uid hk => h.sole (hapart k uid (h.places k uid hk))

theorem trans (h₁ : MintsNone c c₁) (h₂ : MintsNone c₁ c') : MintsNone c c' :=
  ⟨h₂.uids.trans h₁.uids, fun k uid hk => h₁.places k uid (h₂.places k uid hk)⟩

/-- An object may be replaced by one with its UID. -/
theorem put (h : ∀ uid, o.metadata.uid = some uid → c.Has k uid) : MintsNone c (c.put k o) where
  uids := rfl
  places k' uid := by
    rintro ⟨o', ho', huid⟩
    rw [object?_put] at ho'
    split at ho'
    · rename_i heq
      cases ho'
      exact heq ▸ h uid huid
    · exact ⟨o', ho', huid⟩

theorem sweeps (hs : c.Sweeps policy T c') (huids : c'.uids = c.uids) : MintsNone c c' where
  uids := huids
  places k uid := by
    rintro ⟨o', ho', huid⟩
    obtain ⟨o, ho, hpersists⟩ := hs.before ho'
    exact ⟨o, ho, hpersists.same.2.2 ▸ huid⟩

end MintsNone

/-! ### Calls -/

/-- An object without UID that is merged into another one leaves the UIDs where they are. -/
theorem mergePatch_mintsNone (h : c.mergePatch now r «namespace» name o.toJson = .ok (o', c'))
    (hnone : o.metadata.uid = none) :
    MintsNone c (c.put (.ofResource r «namespace» name) o') ∧ MintsNone c c' := by
  obtain ⟨old, ho, hread, hs⟩ := mergePatch_ok h
  have hput : MintsNone c (c.put (.ofResource r «namespace» name) o') :=
    .put fun uid huid => ⟨old, ho, (Object.uid_of_merge hread hnone).symm.trans huid⟩
  refine ⟨hput, hput.trans (.sweeps hs ?_)⟩
  unfold mergePatch at h
  simp only [ho, hread] at h
  split at h <;> cases h
  · exact (deletes_remove now _ _ _).uids
  · rfl

/-- An object without UID keeps that of the one it replaces, or gets the next one. -/
theorem apply_mints (h : c.apply r o = .ok (o', c')) (hnone : o.metadata.uid = none) :
    MintsNone c c' ∨ c'.uids = c.uids + 1 ∧
      ∀ k uid, c'.Has k uid → c.Has k uid ∨ k = o.keyIn r ∧ uid = mintedUid (c.uids + 1) := by
  rcases apply_cases h with ⟨old, hold, rfl, rfl⟩ | ⟨-, rfl, rfl⟩
  · exact .inl (.put fun uid huid => ⟨old, hold, huid⟩)
  · refine .inr ?_
    simp only [withUid, hnone]
    refine ⟨rfl, fun k uid => ?_⟩
    rintro ⟨o₁, ho₁, huid⟩
    rw [object?_put] at ho₁
    split at ho₁
    · rename_i heq
      cases ho₁
      exact .inr ⟨heq, (Option.some.inj huid).symm⟩
    · exact .inl ⟨o₁, ho₁, huid⟩

theorem Sole.apply (hsole : c.Sole ps uids) (h : c.apply r o = .ok (o', c')) (hnone : o.metadata.uid = none) :
    c'.Sole ps uids := by
  rcases apply_mints h hnone with hsame | ⟨huids, hplaces⟩
  · exact hsame.sole hsole
  · refine ⟨fun k uid huid hk => ?_, fun n hn => huids ▸ (hsole.spent n hn).trans (Nat.le_succ _)⟩
    rcases hplaces k uid hk with hold | ⟨-, rfl⟩
    · exact hsole.place k uid huid hold
    · have := hsole.spent _ huid
      omega

theorem Apart.apply (hapart : c.Apart) (h : c.apply r o = .ok (o', c')) (hnone : o.metadata.uid = none) : c'.Apart := by
  intro k uid hk
  rcases apply_mints h hnone with hsame | ⟨huids, hplaces⟩
  · exact hsame.apart hapart k uid hk
  · rcases hplaces k uid hk with hold | ⟨rfl, rfl⟩
    · exact (hapart k uid hold).apply h hnone
    · refine ⟨?_, fun n hn => by rw [mintedUid_injective hn, huids]⟩
      rintro k' uid rfl hk'
      rcases hplaces k' _ hk' with hold | ⟨heq, -⟩
      · have := (hapart k' _ hold).spent _ rfl
        omega
      · exact heq

end
end Cluster
end PlatformOperator
