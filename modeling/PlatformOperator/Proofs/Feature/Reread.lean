import PlatformOperator.Proofs.Cluster.Replacing
import PlatformOperator.Proofs.Feature.Report
import PlatformOperator.Proofs.Feature.Step
import PlatformOperator.Proofs.World.Steady
import PlatformOperator.Proofs.World.Written

/-! The tracker of a feature is read again when the feature is applied again. Its spec reads as it is written, and its
    status as the last report left it, as long as the clock shows a year of four digits. -/

namespace PlatformOperator
open Json

/-- A clock that shows a year of four digits has shown no other. -/
theorem Clock.dated_of_le {clock clock' : Clock} (h : clock'.next.Dated) (hle : clock.readings ≤ clock'.readings) :
    clock.next.Dated := by
  unfold Timestamp.Dated next origin at *
  dsimp only at *
  omega

/-! ### Reports -/

namespace TrackerStatus
variable {c d : Condition} {cs ds : List Condition} {clock : Clock} {phase message : String} {step : ApplyStep}
  {statuses : List (String × ConditionStatus)} {s : TrackerStatus}

/-- The conditions of the status can be written. -/
def Writable (s : TrackerStatus) : Prop := ∀ c ∈ s.conditions, c.Writable

/-- A condition was there before, or has the time of an earlier one or of the clock. -/
theorem mem_upsertIn (h : d ∈ (upsertIn c cs clock).1) :
    d ∈ cs ∨ ∃ time, d = { c with lastTransitionTime := time } ∧
      ((∃ old ∈ cs, time = old.lastTransitionTime) ∨ time = some clock.next) := by
  induction cs with
  | nil => exact .inr ⟨_, List.mem_singleton.mp h, .inr rfl⟩
  | cons old cs ih =>
    by_cases hold : old.type = c.type
    · obtain ⟨time, clock', htime, hput⟩ := upsertIn_of_eq hold cs clock
      rw [hput] at h
      rcases List.mem_cons.mp h with rfl | h
      · exact .inr ⟨time, rfl, htime.imp (fun h => ⟨old, List.mem_cons_self, h.1⟩) And.left⟩
      · exact .inl (List.mem_cons_of_mem _ h)
    · rw [upsertIn_of_ne hold] at h
      rcases List.mem_cons.mp h with rfl | h
      · exact .inl List.mem_cons_self
      · refine (ih h).imp (List.mem_cons_of_mem _) fun ⟨time, hd, htime⟩ => ⟨time, hd, htime.imp_left ?_⟩
        exact fun ⟨old', hold', h⟩ => ⟨old', List.mem_cons_of_mem _ hold', h⟩

theorem upsertIn_writable (hgeneration : c.observedGeneration = none) (hheartbeat : c.lastHeartbeatTime = none)
    (hcs : ∀ c ∈ cs, c.Writable) (hclock : (upsertIn c cs clock).2.next.Dated) :
    ∀ d ∈ (upsertIn c cs clock).1, d.Writable := by
  intro d hd
  rcases mem_upsertIn hd with hd | ⟨time, rfl, htime⟩
  · exact hcs d hd
  · refine ⟨fun n hn => ?_, fun t ht => ?_, fun t ht => ?_⟩
    · cases hgeneration.symm.trans hn
    · rcases htime with ⟨old, hold, rfl⟩ | rfl
      · exact (hcs old hold).transition t ht
      · cases ht
        exact Clock.dated_of_le hclock (upsertIn_forward c cs clock)
    · cases hheartbeat.symm.trans ht

theorem upsertAll_writable (hds : ∀ d ∈ ds, d.observedGeneration = none ∧ d.lastHeartbeatTime = none)
    (hcs : ∀ c ∈ cs, c.Writable) (hclock : (upsertAll ds cs clock).2.next.Dated) :
    ∀ d ∈ (upsertAll ds cs clock).1, d.Writable := by
  induction ds generalizing cs clock with
  | nil => exact hcs
  | cons d ds ih =>
    obtain ⟨⟨hgeneration, hheartbeat⟩, hds⟩ := List.forall_mem_cons.mp hds
    have hfirst := Clock.dated_of_le hclock (upsertAll_forward ds _ _)
    exact ih hds (upsertIn_writable hgeneration hheartbeat hcs hfirst) hclock

theorem report_forward (s : TrackerStatus) (phase : String) (step : ApplyStep) (message : String)
    (statuses : List (String × ConditionStatus)) (clock : Clock) :
    clock.readings ≤ (s.report phase step message statuses clock).2.readings := by
  rw [report_eq]
  exact upsertAll_forward _ _ _

/-- What is reported can be written if the status so far can and the clock shows a year of four digits. -/
theorem report_writable (h : s.Writable) (hclock : (s.report phase step message statuses clock).2.next.Dated) :
    (s.report phase step message statuses clock).1.Writable := by
  rw [report_eq] at hclock ⊢
  refine upsertAll_writable (fun d hd => ?_) h hclock
  obtain ⟨p, -, rfl⟩ := List.mem_map.mp hd
  exact ⟨rfl, rfl⟩

/-- What was read can be written. -/
theorem writable_of_ofJson? {j : Json} (h : ofJson? j = some s) : s.Writable := by
  simp only [ofJson?, bind, Option.bind_eq_some_iff, pure, Option.some.injEq] at h
  obtain ⟨fields, -, _, -, conditions, hconditions, rfl⟩ := h
  intro c hc
  unfold defaulted at hconditions
  split at hconditions
  · cases hconditions
    cases hc
  · obtain ⟨j, hj⟩ := mem_list? hconditions hc
    exact Condition.writable_of_ofJson? hj

end TrackerStatus

/-- A status that an object shows reads as it was written, its times cut to whole seconds. -/
theorem Object.Shows.read {o : Object} {phase : String} {cs : List Condition} (h : o.Shows phase cs)
    (hwritable : ∀ c ∈ cs, c.Writable) :
    optional o.content "status" TrackerStatus.ofJson? = some (some ⟨some phase, cs.map Condition.whole⟩) := by
  obtain ⟨status, hstatus, hphase, hconditions⟩ := h
  cases status with
  | obj ms =>
    have hphase : Dict.get? ms "phase" = some (.str phase) := hphase
    have hconditions : Dict.get? ms "conditions" = some (.arr (cs.map Condition.toJson)) := hconditions
    have hread : list? Condition.ofJson? (.arr (cs.map Condition.toJson)) = some (cs.map Condition.whole) :=
      list?_map_of fun c hc => Condition.ofJson?_toJson (hwritable c hc)
    rw [optional_of_some hstatus (by simp), TrackerStatus.ofJson?]
    have hphase' : optional ms "phase" str? = some (some phase) := optional_str (s := some phase) hphase
    simp [fields?, hphase', defaulted, hconditions, hread]
  | _ => cases hphase

/-! ### Trackers -/

theorem SourceType.ofText?_text (t : SourceType) : ofText? t.text = some t := by
  cases t <;> decide

theorem FeatureSource.ofJson?_toJson (s : FeatureSource) : ofJson? s.toJson = some s := by
  have htype : s.toJson.members.get? "type" = some (.str s.type.text) := by
    simp [toJson, ofPairs, members, Dict.ofList, Dict.get?_insert]
  have hname : s.toJson.members.get? "name" = some (.str s.name) := by
    simp [toJson, ofPairs, members, Dict.ofList, Dict.get?_insert]
  have hfields (names : List String) : s.toJson.fields? names = some s.toJson.members := rfl
  unfold ofJson?
  rw [hfields]
  simp [required, htype, hname, constant?, SourceType.ofText?_text, str?]

namespace Tracker
variable {t : Tracker} {o : Object} {status : Option TrackerStatus}

/-- A tracker reads from an object with its spec. -/
theorem ofObject?_of_spec (hspec : Dict.get? o.content "spec" = Dict.get? t.toObject.content "spec")
    (hstatus : optional o.content "status" TrackerStatus.ofJson? = some status) :
    ofObject? o = some { t with metadata := o.metadata, status } := by
  let spec := Json.ofPairs [("source", t.source.toJson), ("appNamespace", .str t.appNamespace)]
  have hspec : Dict.get? o.content "spec" = some spec := by
    rw [hspec]
    show Dict.get? (Dict.ofList _) "spec" = _
    cases t.status <;> simp [Dict.ofList, Dict.get?_insert, spec]
  have hsource : spec.members.get? "source" = some t.source.toJson := by
    simp [spec, ofPairs, members, Dict.ofList, Dict.get?_insert]
  have hnamespace : spec.members.get? "appNamespace" = some (.str t.appNamespace) := by
    simp [spec, ofPairs, members, Dict.ofList, Dict.get?_insert]
  have hfields (names : List String) : spec.fields? names = some spec.members := rfl
  unfold ofObject? required
  simp [hspec, hfields, hsource, hnamespace, FeatureSource.ofJson?_toJson, str?, hstatus]

theorem status_of_ofObject? (h : ofObject? o = some t) :
    optional o.content "status" TrackerStatus.ofJson? = some t.status := by
  simp only [ofObject?, bind, Option.bind_eq_some_iff, pure, Option.some.injEq] at h
  obtain ⟨_, -, _, hstatus, rfl⟩ := h
  exact hstatus

end Tracker

namespace Feature
open Op Computation
variable {f : Feature} {tracker : OwnerReference} {previous : Option TrackerStatus} {w w' : World} {o o' : Object}

/-- The reference to the tracker as an owner. -/
def trackerReference (f : Feature) (uid : String) : OwnerReference :=
  { apiVersion := Tracker.resource.apiVersion, kind := Tracker.resource.kind, name := f.identity.trackerName, uid,
    controller := none, blockOwnerDeletion := none }

/-- Ensuring the tracker in a calm world applies it, and succeeds just if it comes back with a UID and with a status
    that can be read. -/
theorem ensureTracker_calm (f : Feature) (calm : w.Calm) :
    ∃ o w₁, w.cluster.apply Tracker.resource f.newTracker = .ok (o, w₁.cluster) ∧ w.Advances [f.trackerKey] w₁ ∧
      (f.ensureTracker w).2 = w₁ ∧
        ∀ tracker previous, (f.ensureTracker w).1 = .ok (tracker, previous) ↔
          ∃ uid, (World.returned w.hiddenUids Tracker.resource o).metadata.uid = some uid ∧
            tracker = f.trackerReference uid ∧
              optional o.content "status" TrackerStatus.ofJson? = some previous := by
  obtain ⟨o, c', happly⟩ : ∃ o c', w.cluster.apply Tracker.resource f.newTracker = .ok (o, c') :=
    Cluster.apply_eq_ok_iff.mpr rfl
  obtain ⟨w₁, hcall, rfl, hadvances⟩ := World.applyObject_advances calm happly
  refine ⟨o, w₁, happly, hadvances, ensureTracker_snd.trans (by rw [hcall]), fun tracker previous => ?_⟩
  let o₁ := World.returned w.hiddenUids Tracker.resource o
  obtain ⟨uid₁, hreturned⟩ := World.returned_eq w.hiddenUids Tracker.resource o
  have hcontent : o₁.content = o.content := (congrArg Object.content hreturned).trans rfl
  have hname : o₁.metadata.nameAny = f.identity.trackerName := by
    obtain ⟨-, -, -, hname, -⟩ := Cluster.apply_ok happly
    exact (congrArg (·.metadata.nameAny) hreturned).trans hname
  have hstatus : optional o₁.content "status" TrackerStatus.ofJson? =
      optional o.content "status" TrackerStatus.ofJson? := by rw [hcontent]
  rw [newTracker] at hcall
  rw [ensureTracker, bind_ok (mapError_eq hcall)]
  cases hread : optional o.content "status" TrackerStatus.ofJson? with
  | none =>
    have hnone : Tracker.ofObject? o₁ = none := by
      by_contra hsome
      obtain ⟨t, ht⟩ := Option.ne_none_iff_exists'.mp hsome
      rw [← hstatus, Tracker.status_of_ofObject? ht] at hread
      cases hread
    rw [show Tracker.ofObject? (World.returned w.hiddenUids Tracker.resource o) = none from hnone]
    exact ⟨fun h => (by cases h), fun ⟨_, _, _, h⟩ => (by cases h)⟩
  | some status =>
    have hspec : Dict.get? o₁.content "spec" = Dict.get? f.newTracker.content "spec" := by
      rw [hcontent]
      exact (Cluster.apply_content happly).1 "spec" (by decide)
    have hsome := Tracker.ofObject?_of_spec hspec (hstatus.trans hread)
    rw [show Tracker.ofObject? (World.returned w.hiddenUids Tracker.resource o) = some _ from hsome]
    dsimp only [Tracker.ownerReference?]
    cases huid : o₁.metadata.uid with
    | none => exact ⟨fun h => (by cases h), fun ⟨_, h, _⟩ => (by cases h)⟩
    | some uid =>
      rw [hname]
      constructor
      · intro h
        cases h
        exact ⟨uid, rfl, rfl, rfl⟩
      · rintro ⟨_, h, rfl, hstatus⟩
        cases h
        cases hstatus
        rfl

/-- A new status that the clock was read for is stored. -/
theorem updateTrackerStatus_calm (calm : w.Calm) (ho : w.cluster.object? f.trackerKey = some o) {clock : Clock}
    (hforward : w.clock.readings ≤ clock.readings) (s : TrackerStatus) :
    ∃ w', f.updateTrackerStatus s { w with clock } = (.ok (), w') ∧
      w'.cluster = w.cluster.put f.trackerKey (o.withStatus s.toJson) ∧ w.Advances [] w' ∧
        clock.readings ≤ w'.clock.readings := by
  have htimed := World.Advances.timed hforward
  obtain ⟨w', hcall, hcluster, hadvances⟩ := World.patchStatus_advances (htimed.calm calm) ho s.toJson
  exact ⟨w', mapError_eq_ok.mpr hcall, hcluster, htimed.trans hadvances, hadvances.clock⟩

theorem announce_calm (calm : w.Calm) (ho : w.cluster.object? f.trackerKey = some o)
    (previous : Option TrackerStatus) :
    let s := TrackerStatus.progressing f.name previous w.clock
    ∃ w', f.announce previous w = (.ok s.1, w') ∧ w'.cluster = w.cluster.put f.trackerKey (o.withStatus s.1.toJson) ∧
      w.Advances [] w' ∧ s.2.readings ≤ w'.clock.readings := by
  intro s
  have hforward : w.clock.readings ≤ s.2.readings := TrackerStatus.report_forward _ _ _ _ _ _
  obtain ⟨w', hupdate, hrest⟩ := updateTrackerStatus_calm calm ho hforward s.1
  refine ⟨w', ?_, hrest⟩
  rw [announce, bind_ok (timed_eq _), bind_ok hupdate]
  rfl

theorem report_calm (calm : w.Calm) (ho : w.cluster.object? f.trackerKey = some o) (progressing : TrackerStatus) :
    let s := TrackerStatus.ready f.name progressing w.clock
    ∃ w', f.report progressing (.ok ()) w = (.ok (), w') ∧
      w'.cluster = w.cluster.put f.trackerKey (o.withStatus s.1.toJson) ∧ w.Advances [] w' ∧
        s.2.readings ≤ w'.clock.readings := by
  intro s
  have hforward : w.clock.readings ≤ s.2.readings := TrackerStatus.report_forward _ _ _ _ _ _
  obtain ⟨w', hupdate, hrest⟩ := updateTrackerStatus_calm calm ho hforward s.1
  refine ⟨w', ?_, hrest⟩
  rw [report, bind_ok (timed_eq _)]
  exact hupdate

end Feature
end PlatformOperator
