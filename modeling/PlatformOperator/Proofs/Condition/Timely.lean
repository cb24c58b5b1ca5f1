import Mathlib.Data.List.Sort
import PlatformOperator.Proofs.Condition.Distinct
import PlatformOperator.Proofs.Status

/-! Transition times of conditions stay pairwise distinct under a clock that went past them, so it does not depend on
    the places of the conditions which unhappy dependent is the latest. -/

namespace PlatformOperator
open Json

/-- A condition without times of its own, whose generation can be written: what marks and the manager itself set. -/
structure Condition.Unstamped (c : Condition) : Prop where
  transition : c.lastTransitionTime = none
  heartbeat : c.lastHeartbeatTime = none
  generation : ∀ n, c.observedGeneration = some n → IsWord n

namespace Manager

/-- Conditions that made their transitions one after the other, each at a whole second that the clock has passed.
    Their times are in the years of four digits as long as the clock is. -/
structure Stamped (clock : Clock) (cs : List Condition) : Prop where
  distinct : (cs.map (·.lastTransitionTime)).Nodup
  passed : ∀ c ∈ cs, ∀ t, c.lastTransitionTime = some t →
    t.whole = t ∧ -62167219200 ≤ t.seconds ∧ t.seconds < clock.next.seconds
  heartbeat : ∀ c ∈ cs, ∀ t, c.lastHeartbeatTime = some t → t.Dated

/-- Stamped conditions whose generations can be written. -/
structure Timely (clock : Clock) (cs : List Condition) : Prop extends Stamped clock cs where
  generation : ∀ c ∈ cs, ∀ n, c.observedGeneration = some n → IsWord n

section
variable {clock clock' : Clock} {cs cs' : List Condition} {c d : Condition}

theorem Timely.later (h : Timely clock cs) (hle : clock.readings ≤ clock'.readings) : Timely clock' cs where
  distinct := h.distinct
  passed := by
    intro c hc t ht
    obtain ⟨hwhole, hera, hpassed⟩ := h.passed c hc t ht
    have hnext : clock.next.seconds ≤ clock'.next.seconds := by
      simp only [Clock.next]
      omega
    exact ⟨hwhole, hera, by omega⟩
  heartbeat := h.heartbeat
  generation := h.generation

theorem Timely.sublist (h : Timely clock cs) (hsub : cs'.Sublist cs) : Timely clock cs' where
  distinct := h.distinct.sublist (hsub.map _)
  passed := fun c hc => h.passed c (hsub.subset hc)
  heartbeat := fun c hc => h.heartbeat c (hsub.subset hc)
  generation := fun c hc => h.generation c (hsub.subset hc)

theorem Timely.perm (h : Timely clock cs) (hperm : cs'.Perm cs) : Timely clock cs' where
  distinct := (hperm.map _).nodup_iff.mpr h.distinct
  passed := fun c hc => h.passed c (hperm.mem_iff.mp hc)
  heartbeat := fun c hc => h.heartbeat c (hperm.mem_iff.mp hc)
  generation := fun c hc => h.generation c (hperm.mem_iff.mp hc)

/-- Timely conditions can be written before the clock reaches the year 10000. -/
theorem Timely.writable (h : Timely clock cs) (hclock : clock.next.Dated) (hc : c ∈ cs) : c.Writable where
  generation := h.generation c hc
  transition := by
    intro t ht
    obtain ⟨-, hera, hpassed⟩ := h.passed c hc t ht
    exact ⟨hera, Int.le_trans (Int.le_of_lt hpassed) hclock.2⟩
  heartbeat := h.heartbeat c hc

end

variable {m m' : Manager} {c d : Condition} {now : Timestamp} {clock clock' : Clock} {t : String} {ts : List String}
  {cs : List Condition}

/-! ### Stores -/

/-- A stored condition was there before, is the one to store, or is an earlier one of its type brought up to date. -/
theorem mem_storeIn (h : d ∈ (storeIn c now cs).2) :
    d ∈ cs ∨ d = { c with lastTransitionTime := some (c.lastTransitionTime.getD now) } ∨
      ∃ old ∈ cs, d = (old.update c now).2 := by
  induction cs with
  | nil => exact .inr (.inl (List.mem_singleton.mp h))
  | cons old cs ih =>
    unfold storeIn at h
    split at h
    · rcases List.mem_cons.mp h with rfl | hrest
      · exact .inr (.inr ⟨old, List.mem_cons_self, rfl⟩)
      · exact .inl (List.mem_cons_of_mem _ hrest)
    · rcases List.mem_cons.mp h with rfl | hrest
      · exact .inl List.mem_cons_self
      · rcases ih hrest with hmem | hnew | ⟨old', hold, rfl⟩
        · exact .inl (List.mem_cons_of_mem _ hmem)
        · exact .inr (.inl hnew)
        · exact .inr (.inr ⟨old', List.mem_cons_of_mem _ hold, rfl⟩)

/-- A store gives one transition the time it reads, if it moves any. -/
theorem transition_storeIn (hc : c.lastTransitionTime = none) (h : d ∈ (storeIn c now cs).2) :
    d.lastTransitionTime ∈ cs.map (·.lastTransitionTime) ∨ d.lastTransitionTime = some now := by
  rcases mem_storeIn h with hmem | rfl | ⟨old, hold, rfl⟩
  · exact .inl (List.mem_map_of_mem hmem)
  · exact .inr (by rw [hc]; rfl)
  · by_cases hstatus : old.status = c.status
    · exact .inl (List.mem_map.mpr ⟨old, hold, by simp [Condition.update, hstatus]⟩)
    · exact .inr (by simp [Condition.update, hstatus, hc])

theorem nodup_transitions_storeIn (hc : c.lastTransitionTime = none)
    (hnow : some now ∉ cs.map (·.lastTransitionTime)) (h : (cs.map (·.lastTransitionTime)).Nodup) :
    ((storeIn c now cs).2.map (·.lastTransitionTime)).Nodup := by
  induction cs with
  | nil => simp [storeIn]
  | cons old cs ih =>
    rw [List.map_cons, List.mem_cons, not_or] at hnow
    obtain ⟨hold, hrest⟩ := List.nodup_cons.mp h
    unfold storeIn
    split
    · refine List.nodup_cons.mpr ⟨?_, hrest⟩
      by_cases hstatus : old.status = c.status
      · simpa [Condition.update, hstatus] using hold
      · simpa [Condition.update, hstatus, hc] using hnow.2
    · refine List.nodup_cons.mpr ⟨fun hmem => ?_, ih hnow.2 hrest⟩
      obtain ⟨d, hd, htime⟩ := List.mem_map.mp hmem
      rcases transition_storeIn hc hd with hearlier | hlast
      · exact hold (htime ▸ hearlier)
      · exact hnow.1 (hlast.symm.trans htime)

protected theorem Timely.storeIn (h : Timely clock cs) (hc : c.Unstamped) :
    Timely clock.tick (storeIn c clock.next cs).2 := by
  have hlater : Timely clock.tick cs := h.later (Nat.le_succ _)
  have hnow : some clock.next ∉ cs.map (·.lastTransitionTime) := by
    intro hmem
    obtain ⟨d, hd, htime⟩ := List.mem_map.mp hmem
    exact absurd (h.passed d hd _ htime).2.2 (Int.lt_irrefl _)
  refine ⟨⟨nodup_transitions_storeIn hc.transition hnow h.distinct, ?_, ?_⟩, ?_⟩
  · intro d hd t ht
    rcases transition_storeIn hc.transition hd with hearlier | hlast
    · obtain ⟨old, hold, htime⟩ := List.mem_map.mp hearlier
      exact hlater.passed old hold t (htime.trans ht)
    · cases hlast.symm.trans ht
      simp [Clock.next, Clock.tick, Clock.origin, Timestamp.whole]
      omega
  · intro d hd t ht
    rcases mem_storeIn hd with hmem | rfl | ⟨old, hold, rfl⟩
    · exact h.heartbeat d hmem t ht
    · cases hc.heartbeat.symm.trans ht
    · exact h.heartbeat old hold t ht
  · intro d hd n hn
    rcases mem_storeIn hd with hmem | rfl | ⟨old, -, rfl⟩
    · exact h.generation d hmem n hn
    · exact hc.generation n hn
    · exact hc.generation n hn

/-! ### Operations -/

/-- The clock does not go back, and conditions that were timely under it stay so. -/
structure Proceeds (m : Manager) (clock : Clock) (p : Manager × Clock) : Prop where
  forward : clock.readings ≤ p.2.readings
  timely : Timely clock m.conditions → Timely p.2 p.1.conditions

theorem Proceeds.wait (later : clock.readings ≤ clock'.readings) (m : Manager) : Proceeds m clock (m, clock') :=
  ⟨later, fun h => h.later later⟩

theorem Proceeds.refl (m : Manager) (clock : Clock) : Proceeds m clock (m, clock) := .wait (Nat.le_refl _) m

theorem Proceeds.trans {p q : Manager × Clock} (h : Proceeds m clock p) (h' : Proceeds p.1 p.2 q) :
    Proceeds m clock q :=
  ⟨Nat.le_trans h.forward h'.forward, fun hm => h'.timely (h.timely hm)⟩

theorem store_proceeds (hc : c.Unstamped) (m : Manager) (clock : Clock) :
    Proceeds m clock ((m.store c clock.next).2, clock.tick) :=
  ⟨Nat.le_succ _, fun h => h.storeIn hc⟩

theorem entailed?_unstamped (h : m.entailed? t = some c) : c.Unstamped := by
  unfold entailed? at h
  split at h
  · cases h
    exact ⟨rfl, rfl, fun _ hn => by cases hn⟩
  · split at h <;> cases h
    exact ⟨rfl, rfl, fun _ hn => by cases hn⟩

theorem setWithin_proceeds {depth : Nat} {p : Manager × Clock} (hc : c.Unstamped)
    (h : setWithin depth c m clock = some p) : Proceeds m clock p := by
  induction depth generalizing c m clock with
  | zero => cases h
  | succ depth ih =>
    have hstored := store_proceeds hc m clock
    unfold setWithin at h
    dsimp only at h
    split at h
    · cases h
      exact hstored
    · rename_i top htop
      have hentailed : (m.store c clock.next).2.entailed? c.type = some top := by
        split at htop
        · exact htop
        · cases htop
      exact hstored.trans (ih (entailed?_unstamped hentailed) h)

theorem set_proceeds (hc : c.Unstamped) (m : Manager) (clock : Clock) : Proceeds m clock (m.set c clock) := by
  unfold set
  cases h : setWithin 3 c m clock with
  | none => exact .refl m clock
  | some p => exact setWithin_proceeds hc h

theorem recompute_proceeds (t : String) (m : Manager) (clock : Clock) : Proceeds m clock (m.recompute t clock) := by
  unfold recompute
  cases h : m.entailed? t with
  | none => exact .refl m clock
  | some top => exact set_proceeds (entailed?_unstamped h) m clock

theorem addMissing_proceeds (status : ConditionStatus) (ts : List String) (m : Manager) (clock : Clock) :
    Proceeds m clock (m.addMissing status ts clock) := by
  induction ts generalizing m clock with
  | nil => exact .refl m clock
  | cons t ts ih =>
    rw [addMissing_cons]
    split
    · exact ih m clock
    · exact (set_proceeds ⟨rfl, rfl, fun _ hn => by cases hn⟩ m clock).trans (ih _ _)

theorem complete_proceeds (m : Manager) (clock : Clock) : Proceeds m clock (m.complete clock) := by
  unfold complete
  cases m.top? with
  | some top => exact addMissing_proceeds _ _ m clock
  | none => exact (set_proceeds ⟨rfl, rfl, fun _ hn => by cases hn⟩ m clock).trans (addMissing_proceeds _ _ _ _)

theorem reset_proceeds (m : Manager) (clock : Clock) : Proceeds m clock (m.reset clock) := by
  rw [reset_eq]
  have htrimmed : Proceeds m clock (m.trimmed, clock) := ⟨Nat.le_refl _, fun h => h.sublist List.filter_sublist⟩
  exact htrimmed.trans (complete_proceeds m.trimmed clock)

theorem sort_proceeds (m : Manager) (clock : Clock) : Proceeds m clock (m.sort, clock) :=
  ⟨Nat.le_refl _, fun h => h.perm m.sort_perm⟩

/-! ### The latest unhappy dependent -/

theorem transition_eq (hcd : notEarlier c d = true) (hdc : notEarlier d c = true) :
    c.lastTransitionTime = d.lastTransitionTime := by
  unfold notEarlier at hcd hdc
  cases hc : c.lastTransitionTime with
  | none =>
    cases hd : d.lastTransitionTime with
    | none => rfl
    | some u => simp [hc, hd] at hcd
  | some t =>
    cases hd : d.lastTransitionTime with
    | none => simp [hc, hd] at hdc
    | some u =>
      simp only [hc, hd, Timestamp.le_iff] at hcd hdc
      have hseconds : t.seconds = u.seconds := by omega
      have hnanos : t.nanos = u.nanos := by omega
      cases t
      cases u
      cases hseconds
      cases hnanos
      rfl

/-- Distinct transition times order the candidates, wherever the conditions stand. -/
theorem candidates_perm (hdistinct : (m.conditions.map (·.lastTransitionTime)).Nodup) (hhappy : m'.happy = m.happy)
    (hdeps : m'.dependents = m.dependents) (hperm : m'.conditions.Perm m.conditions) :
    m'.candidates = m.candidates := by
  have hdependent : m'.isDependent = m.isDependent := by
    unfold isDependent
    rw [hhappy, hdeps]
  have hsorted (m : Manager) : m.candidates.Pairwise fun a b => notEarlier a b = true :=
    List.pairwise_mergeSort notEarlier_trans notEarlier_total _
  have hcandidates : m'.candidates.Perm m.candidates := by
    unfold candidates
    rw [hdependent]
    exact (List.mergeSort_perm _ _).trans ((hperm.filter _).trans (List.mergeSort_perm _ _).symm)
  refine hcandidates.eq_of_pairwise (fun c d hc hd hcd hdc => ?_) (hsorted m') (hsorted m)
  have hc : c ∈ m.conditions := hperm.mem_iff.mp (mem_candidates.mp hc).1
  exact List.inj_on_of_nodup_map hdistinct hc (mem_candidates.mp hd).1 (transition_eq hcd hdc)

theorem entailed?_sort (hdistinct : (m.conditions.map (·.lastTransitionTime)).Nodup) (t : String) :
    m.sort.entailed? t = m.entailed? t := by
  have hcandidates : m.sort.candidates = m.candidates := candidates_perm hdistinct rfl rfl m.sort_perm
  unfold entailed? unhappy?
  rw [hcandidates]
  rfl

end Manager
end PlatformOperator
