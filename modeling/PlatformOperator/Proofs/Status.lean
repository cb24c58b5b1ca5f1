import PlatformOperator.Proofs.Object.Reread

/-! A status reads back as it was written, its times cut to whole seconds. -/

namespace PlatformOperator
open Json

namespace ConditionStatus

theorem ofText?_text (s : ConditionStatus) : ofText? s.text = some s := by
  cases s <;> decide

end ConditionStatus

namespace Severity

theorem ofText?_text (s : Severity) : ofText? s.text = some s := by
  cases s <;> decide

end Severity

namespace Condition
variable {c : Condition}

/-- What a condition tells can be written: its generation is one of 64 bits, and its times are in the years of
    four digits. -/
structure Writable (c : Condition) : Prop where
  generation : ∀ n, c.observedGeneration = some n → IsWord n
  transition : ∀ t, c.lastTransitionTime = some t → t.Dated
  heartbeat : ∀ t, c.lastHeartbeatTime = some t → t.Dated

/-- The condition with its times cut to whole seconds. -/
def whole (c : Condition) : Condition :=
  { c with
    lastTransitionTime := c.lastTransitionTime.map Timestamp.whole
    lastHeartbeatTime := c.lastHeartbeatTime.map Timestamp.whole }

theorem dated_of_optional {fields : Dict Json} {k : String} {time : Option Timestamp} {t : Timestamp}
    (h : optional fields k time? = some time) (ht : time = some t) : t.Dated := by
  obtain ⟨j, hj⟩ := read_of_optional h ht
  cases j with
  | str s => exact (Timestamp.ofText?_eq_some.mp hj).2
  | _ => cases hj

/-- What was read can be written. -/
theorem writable_of_ofJson? {j : Json} (h : ofJson? j = some c) : c.Writable := by
  unfold ofJson? at h
  dsimp only [bind, pure] at h
  simp only [↓Option.bind_eq_some_iff, Option.some.injEq] at h
  obtain ⟨_, -, _, -, _, -, _, hgeneration, _, htransition, _, hheartbeat, _, -, _, -, _, -, rfl⟩ := h
  exact ⟨fun _ => isWord_of_optional hgeneration, fun _ => dated_of_optional htransition,
    fun _ => dated_of_optional hheartbeat⟩

theorem toJson_whole (c : Condition) : c.whole.toJson = c.toJson := by
  have htext (t : Option Timestamp) :
      (t.map Timestamp.whole).map (fun t => Json.str t.text) = t.map fun t => .str t.text := by
    rw [Option.map_map]
    rfl
  unfold toJson whole
  simp only [htext]

theorem optional_time {fields : Dict Json} {k : String} {t : Option Timestamp}
    (h : fields.get? k = t.map fun t => .str t.text) (hdated : ∀ u, t = some u → u.Dated) :
    optional fields k time? = some (t.map Timestamp.whole) := by
  cases t with
  | none => exact optional_of_none h
  | some t =>
    rw [optional_of_some h (by simp)]
    show (Timestamp.ofText? t.text).map some = _
    rw [Timestamp.ofText?_text (hdated t rfl)]
    rfl

theorem whole_whole (c : Condition) : c.whole.whole = c.whole := by
  simp only [whole, Option.map_map]
  rfl

theorem Writable.whole (h : c.Writable) : c.whole.Writable where
  generation := h.generation
  transition := by
    intro t ht
    obtain ⟨u, hu, rfl⟩ := Option.map_eq_some_iff.mp ht
    exact h.transition u hu
  heartbeat := by
    intro t ht
    obtain ⟨u, hu, rfl⟩ := Option.map_eq_some_iff.mp ht
    exact h.heartbeat u hu

theorem ofJson?_toJson (h : c.Writable) : ofJson? c.toJson = some c.whole := by
  have hnames : ["type", "status", "observedGeneration", "lastTransitionTime", "lastHeartbeatTime", "reason", "message",
      "severity"].Nodup := by decide
  have htype : required c.toJson.members "type" str? = some c.type := by
    have hget : c.toJson.members.get? "type" = some (.str c.type) := get?_ofPresent hnames (by simp)
    rw [required, hget]
    rfl
  have hstatus : required c.toJson.members "status" (fun j => j.constant?.bind ConditionStatus.ofText?) =
      some c.status := by
    have hget : c.toJson.members.get? "status" = some (.str c.status.text) := get?_ofPresent hnames (by simp)
    rw [required, hget]
    exact ConditionStatus.ofText?_text c.status
  have hgeneration : optional c.toJson.members "observedGeneration" (signed? 64) = some c.observedGeneration :=
    optional_word (get?_ofPresent hnames (by simp)) h.generation
  have htransition : optional c.toJson.members "lastTransitionTime" time? = some (c.lastTransitionTime.map _) :=
    optional_time (get?_ofPresent hnames (by simp)) h.transition
  have hheartbeat : optional c.toJson.members "lastHeartbeatTime" time? = some (c.lastHeartbeatTime.map _) :=
    optional_time (get?_ofPresent hnames (by simp)) h.heartbeat
  have hreason : optional c.toJson.members "reason" str? = some c.reason :=
    optional_str (get?_ofPresent hnames (by simp))
  have hmessage : optional c.toJson.members "message" str? = some c.message :=
    optional_str (get?_ofPresent hnames (by simp))
  have hseverity : defaulted c.toJson.members "severity" .error (fun j => j.constant?.bind Severity.ofText?) =
      some c.severity := by
    have hget : c.toJson.members.get? "severity" =
        if c.severity = .error then none else some (.str c.severity.text) := get?_ofPresent hnames (by simp)
    rw [defaulted, hget]
    split
    · rename_i herror
      split at herror
      · rename_i hsev
        rw [hsev]
      · cases herror
    · rename_i j hj
      split at hj
      · cases hj
      · cases hj
        exact Severity.ofText?_text c.severity
  have hfields (names : List String) : c.toJson.fields? names = some c.toJson.members := rfl
  unfold ofJson?
  rw [hfields]
  simp [htype, hstatus, hgeneration, htransition, hheartbeat, hreason, hmessage, hseverity, whole]

end Condition

namespace PlatformStatus
variable {s : PlatformStatus} {ms : List (String × Json)}

/-- The status with all times cut to whole seconds. -/
def whole (s : PlatformStatus) : PlatformStatus := { s with conditions := s.conditions.map Condition.whole }

theorem toJson_whole (s : PlatformStatus) : s.whole.toJson = s.toJson := by
  have hmap : (s.conditions.map Condition.whole).map Condition.toJson = s.conditions.map Condition.toJson := by
    rw [List.map_map]
    exact List.map_congr_left fun c _ => c.toJson_whole
  unfold toJson whole
  simp only [hmap, List.map_eq_nil_iff]

theorem whole_whole (s : PlatformStatus) : s.whole.whole = s.whole := by
  unfold whole
  rw [List.map_map]
  congr 1
  exact List.map_congr_left fun c _ => c.whole_whole

theorem observed_of_ofJson? (h : ofJson? (.obj ms) = some s) :
    optional ms "observedGeneration" (signed? 64) = some s.observedGeneration := by
  simp only [ofJson?, fields?, bind, Option.bind_some, Option.bind_eq_some_iff, pure, Option.some.injEq] at h
  obtain ⟨_, -, _, hobserved, _, -, rfl⟩ := h
  exact hobserved

/-- A status that was read has generations of 64 bits. -/
theorem generations_of_ofJson? {j : Json} (h : ofJson? j = some s) :
    (∀ n, s.observedGeneration = some n → IsWord n) ∧
      ∀ c ∈ s.conditions, ∀ n, c.observedGeneration = some n → IsWord n := by
  simp only [ofJson?, bind, Option.bind_eq_some_iff, pure, Option.some.injEq] at h
  obtain ⟨fields, -, _, -, _, hobserved, _, hconditions, rfl⟩ := h
  refine ⟨fun n hn => isWord_of_optional hobserved hn, fun c hc n hn => ?_⟩
  unfold defaulted at hconditions
  split at hconditions
  · cases hconditions
    cases hc
  · obtain ⟨j, hj⟩ := mem_list? hconditions hc
    exact (Condition.writable_of_ofJson? hj).generation n hn

theorem ofJson?_obj (hphase : Dict.get? ms "phase" = s.phase.map .str)
    (hobserved : optional ms "observedGeneration" (signed? 64) = some s.observedGeneration)
    (hconditions : Dict.get? ms "conditions" = some (.arr (s.conditions.map Condition.toJson)))
    (hwritable : ∀ c ∈ s.conditions, c.Writable) : ofJson? (.obj ms) = some s.whole := by
  have hphase' : optional ms "phase" str? = some s.phase := optional_str hphase
  have hconditions' : defaulted ms "conditions" [] (list? Condition.ofJson?) =
      some (s.conditions.map Condition.whole) := by
    rw [defaulted, hconditions]
    exact list?_map_of fun c hc => Condition.ofJson?_toJson (hwritable c hc)
  have hfields (names : List String) : (Json.obj ms).fields? names = some ms := rfl
  unfold ofJson?
  rw [hfields]
  simp [hphase', hobserved, hconditions', whole]

/-- A status with conditions reads as it was written. -/
theorem ofJson?_toJson (hconditions : s.conditions ≠ []) (hgeneration : ∀ n, s.observedGeneration = some n → IsWord n)
    (hwritable : ∀ c ∈ s.conditions, c.Writable) : ofJson? s.toJson = some s.whole := by
  have hnames : ["phase", "observedGeneration", "conditions"].Nodup := by decide
  show ofJson? (.obj s.toJson.members) = _
  refine ofJson?_obj (get?_ofPresent hnames (by simp)) ?_ (get?_ofPresent hnames (by simp [hconditions])) hwritable
  exact optional_word (get?_ofPresent hnames (by simp)) hgeneration

/-- A status with a phase and conditions that is merged into another one reads as it was written. Only the observed
    generation may come from the other status. -/
theorem ofJson?_merge {current : Json} {phase : String} (hphase : s.phase = some phase)
    (hconditions : s.conditions ≠ [])
    (hgeneration : ∀ n, s.observedGeneration = some n → IsWord n)
    (hobserved : s.observedGeneration = none →
      optional current.members "observedGeneration" (signed? 64) = some none)
    (hwritable : ∀ c ∈ s.conditions, c.Writable) : ofJson? (current.merge s.toJson) = some s.whole := by
  have hnames : ["phase", "observedGeneration", "conditions"].Nodup := by decide
  have hpatch : s.toJson = .obj s.toJson.members := rfl
  -- No member of the patch is an object, so each one replaces what was there.
  have hmember {k : String} {p : Json} (hk : s.toJson.members.get? k = some p) (hnull : p ≠ .null)
      (hflat : ∀ target, merge target p = p) :
      Dict.get? (mergeMembers current.members s.toJson.members) k = some p := by
    have hget := get?_merge (Dict.nodup_ofList _) hk hnull hflat current
    rwa [merge] at hget
  rw [hpatch, merge]
  have hwritten : s.toJson.members.get? "conditions" = some (.arr (s.conditions.map Condition.toJson)) :=
    get?_ofPresent hnames (by simp [hconditions])
  have hobservedWritten : s.toJson.members.get? "observedGeneration" = s.observedGeneration.map .int :=
    get?_ofPresent hnames (by simp)
  refine ofJson?_obj ?_ ?_ (hmember hwritten (by simp) fun _ => by rw [merge]; simp) hwritable
  · rw [hphase]
    refine hmember (p := .str phase) ?_ (by simp) fun _ => by rw [merge]; simp
    exact get?_ofPresent hnames (by simp [hphase])
  · cases hs : s.observedGeneration with
    | none =>
      rw [hs] at hobservedWritten
      rw [optional_congr (get?_mergeMembers_of_not_mem (Dict.get?_eq_none_iff.mp hobservedWritten)), hobserved hs]
    | some n =>
      rw [hs] at hobservedWritten
      have hget := hmember hobservedWritten (by simp) fun _ => by rw [merge]; simp
      exact optional_word (n := some n) hget fun i hi => hgeneration i (hs.trans hi)

end PlatformStatus
end PlatformOperator
