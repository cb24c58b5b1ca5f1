import PlatformOperator.Action.Collect
import PlatformOperator.Action.Deploy
import PlatformOperator.Proofs.Release

/-! What the collector reads from an object is what a deployment wrote: an object is stale for a request
    just if it was rendered for another release, instance or generation. -/

namespace PlatformOperator

namespace Deploy

theorem nodup_marks (r : Request) : ((marks r).map (·.1)).Nodup := by
  show [Marks.instanceGeneration, Marks.instanceName, Marks.instanceUid, Marks.platformType,
    Marks.platformVersion].Nodup
  decide

/-- The marks of the request win over annotations of the manifest. -/
theorem annotation?_stamp (r : Request) (m : Object) (key : String) :
    (stamp r m).metadata.annotation? key = ((marks r).get? key).or (m.metadata.annotation? key) := by
  show (Dict.get? (List.foldl _ _ _) key) = _
  rw [Dict.get?_foldl_insert key _ _ (nodup_marks r)]
  cases h : m.metadata.annotations <;> simp [ObjectMeta.annotation?, h]

/-- An own part-of label of the manifest stays, any other becomes that of the instance. -/
theorem label?_stamp_partOf (r : Request) (m : Object) :
    (stamp r m).metadata.label? Marks.partOf = some ((m.metadata.label? Marks.partOf).getD r.subject.label) := by
  cases h : m.metadata.label? Marks.partOf with
  | some v =>
    have hkept : (stamp r m).metadata.labels = m.metadata.labels := if_pos (by rw [h]; rfl)
    rw [ObjectMeta.label?, hkept]
    exact h
  | none =>
    have hset : (stamp r m).metadata.labels = some ((m.metadata.labels.getD []).insert Marks.partOf r.subject.label) :=
      if_neg (by rw [h]; exact Bool.false_ne_true)
    rw [ObjectMeta.label?, hset, Option.bind_some, Dict.get?_insert, if_pos rfl]
    rfl

end Deploy

namespace CurrentState
open Deploy

section
variable {s : CurrentState} {r : Request} {m o : Object}

theorem isStale_stamped (h : o.metadata.annotations = (stamp r m).metadata.annotations) :
    s.isStale o =
      if r.release ≠ s.release ∨ s.uid ≠ some (r.subject.metadata.uid.getD "") then .ok true
      else match Integer.readSigned (Integer.text r.subject.generation) with
        | .ok n => .ok (n != s.generation)
        | .error flaw => .error ⟨Marks.instanceGeneration, o.kind, o.name, flaw⟩ := by
  have hread (key : String) : o.metadata.annotation? key = ((marks r).get? key).or (m.metadata.annotation? key) := by
    rw [← annotation?_stamp, ObjectMeta.annotation?, h]
    rfl
  have hversion : o.metadata.annotation? Marks.platformVersion = some r.release.version.text := hread _
  have hplatform : o.metadata.annotation? Marks.platformType = some r.release.platform.text := hread _
  have huid : o.metadata.annotation? Marks.instanceUid = some (r.subject.metadata.uid.getD "") := hread _
  have hgeneration : o.metadata.annotation? Marks.instanceGeneration = some (Integer.text r.subject.generation) :=
    hread _
  simp only [isStale, generationMark?, hversion, hplatform, huid, hgeneration, Option.map_some, Option.any_some]
  by_cases hrelease : r.release ≠ s.release
  · rw [if_pos (.inl hrelease)]
    exact if_pos (Release.ne_iff_text_ne.mp hrelease)
  · refine (if_neg (mt Release.ne_iff_text_ne.mpr hrelease)).trans ?_
    by_cases hsame : s.uid = some (r.subject.metadata.uid.getD "")
    · rw [if_neg (not_or.mpr ⟨hrelease, not_not_intro hsame⟩)]
      exact if_neg (by simpa using hsame)
    · rw [if_pos (by simpa using hsame), if_pos (.inr hsame)]

/-- What was rendered for another instance is stale. -/
theorem isStale_of_stamped_by_other (h : o.metadata.annotations = (stamp r m).metadata.annotations)
    (hother : s.uid ≠ some (r.subject.metadata.uid.getD "")) : s.isStale o = .ok true := by
  rw [isStale_stamped h, if_pos (.inr hother)]

/-- What was rendered for a request is not stale for it. -/
theorem not_isStale_of_stamped (h : o.metadata.annotations = (stamp r m).metadata.annotations)
    (huid : r.subject.metadata.uid.isSome) : (GarbageCollector.currentState r).isStale o ≠ .ok true := by
  obtain ⟨uid, huid⟩ := Option.isSome_iff_exists.mp huid
  have hsame : ¬(r.release ≠ (GarbageCollector.currentState r).release ∨
      (GarbageCollector.currentState r).uid ≠ some (r.subject.metadata.uid.getD "")) := by
    rintro (h | h)
    · exact h rfl
    · exact h (by rw [GarbageCollector.currentState, huid]; rfl)
  rw [isStale_stamped h, if_neg hsame]
  intro htrue
  split at htrue
  · next n hn =>
    cases Integer.eq_of_readSigned_text hn
    simp [GarbageCollector.currentState] at htrue
  · cases htrue

/-- What was rendered for another release or generation is stale, if that can be told at all. -/
theorem isStale_of_stamped_otherwise {stale : Bool} (h : o.metadata.annotations = (stamp r m).metadata.annotations)
    (hother : r.release ≠ s.release ∨ r.subject.generation ≠ s.generation) (hs : s.isStale o = .ok stale) :
    stale = true := by
  rw [isStale_stamped h] at hs
  split at hs
  · cases hs
    rfl
  · next hsame =>
    have hgeneration := hother.resolve_left fun hne => hsame (.inl hne)
    split at hs
    · next n hn =>
      cases Integer.eq_of_readSigned_text hn
      cases hs
      simpa using hgeneration
    · cases hs

/-- A stamp with a generation of 64 bits can always be read. It is stale for just the requests that differ in release,
    instance or generation from the one it was written for. -/
theorem isStale_stamp (q r : Request) (m : Object) (huid : q.subject.metadata.uid.isSome)
    (hleast : -(wordSize 63 : Int) ≤ q.subject.generation) (hgreatest : q.subject.generation < (wordSize 63 : Int)) :
    (GarbageCollector.currentState r).isStale (stamp q m) =
        .ok (decide (q.release.version ≠ r.release.version ∨ q.release.platform ≠ r.release.platform ∨
          q.subject.metadata.uid ≠ r.subject.metadata.uid ∨ q.subject.generation ≠ r.subject.generation)) ∧
      (GarbageCollector.currentState q).isStale (stamp q m) = .ok false := by
  obtain ⟨uid, huid⟩ := Option.isSome_iff_exists.mp huid
  have hgeneration : Integer.readSigned (Integer.text q.subject.generation) = .ok q.subject.generation := by
    rw [Integer.readSigned_text, if_neg (Int.not_lt.mpr hleast), if_neg (Int.not_le.mpr hgreatest)]
  have hread (r : Request) : (GarbageCollector.currentState r).isStale (stamp q m) =
      .ok (decide (q.release ≠ r.release ∨ q.subject.metadata.uid ≠ r.subject.metadata.uid ∨
        q.subject.generation ≠ r.subject.generation)) := by
    rw [isStale_stamped rfl, hgeneration, huid, Option.getD_some]
    by_cases hother : q.release ≠ (GarbageCollector.currentState r).release ∨
        (GarbageCollector.currentState r).uid ≠ some uid
    · rw [if_pos hother]
      exact congrArg _ (decide_eq_true (hother.imp_right fun h => .inl h.symm)).symm
    · rw [if_neg hother]
      refine congrArg Except.ok ?_
      rw [Bool.eq_iff_iff, bne_iff_ne, decide_eq_true_iff]
      refine ⟨fun h => .inr (.inr h), ?_⟩
      rintro (h | h | h)
      · exact absurd (.inl h) hother
      · exact absurd (.inr h.symm) hother
      · exact h
  have hrelease : q.release ≠ r.release ↔
      q.release.version ≠ r.release.version ∨ q.release.platform ≠ r.release.platform := by
    rw [← not_and_or, not_iff_not]
    cases q.release
    cases r.release
    rw [Release.mk.injEq, and_comm]
  refine ⟨?_, ?_⟩
  · rw [hread]
    simp only [hrelease, or_assoc]
  · rw [hread]
    simp

end
end CurrentState

namespace Sample

/-- A dashboard of the least generation there is. -/
def earliest : Request where
  subject :=
    ⟨Instance.dashboards, { name := some "d", uid := some "d", generation := some (-(wordSize 63 : Int)) }, none, none⟩
  config := ⟨"apps", none⟩
  release := default
  conditions := ⟨Condition.ready, [], [], by simp⟩

/-- Its next reconciliation, on another platform. -/
def upgraded : Request := { earliest with release := ⟨.selfManaged, .zero⟩ }

/-- An object that an older release marked, and not with a number. -/
def legacy : Object where
  metadata := { name := some "settings", annotations := some [(Marks.componentGeneration, "latest")] }

end Sample

open Sample in
theorem CurrentState.isStale_stamp_sample :
    earliest.subject.metadata.uid.isSome ∧ -(wordSize 63 : Int) ≤ earliest.subject.generation ∧
      earliest.subject.generation < (wordSize 63 : Int) ∧
        (GarbageCollector.currentState upgraded).isStale (Deploy.stamp earliest legacy) = .ok true ∧
          (GarbageCollector.currentState earliest).isStale (Deploy.stamp earliest legacy) = .ok false := by
  have hleast : -(wordSize 63 : Int) ≤ earliest.subject.generation := Int.le_refl _
  have hgreatest : earliest.subject.generation < (wordSize 63 : Int) := by decide
  obtain ⟨hread, hown⟩ := isStale_stamp earliest upgraded legacy rfl hleast hgreatest
  exact ⟨rfl, hleast, hgreatest, hread.trans (congrArg _ (by decide)), hown⟩

end PlatformOperator
