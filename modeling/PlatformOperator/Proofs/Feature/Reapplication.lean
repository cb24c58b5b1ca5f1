import PlatformOperator.Proofs.Feature.Accepted
import PlatformOperator.Proofs.Feature.Protocol
import PlatformOperator.Proofs.Feature.Reread

/-! Applying a feature again. The first application leaves every object as its manifests, applied once more, would leave
    it, so the second one changes nothing but the tracker. -/

namespace PlatformOperator
open Computation

namespace Feature
open Op
variable {f : Feature} {tracker : OwnerReference} {previous : Option TrackerStatus} {progressing : TrackerStatus}
  {w w₁ wₜ wₐ wᵥ w' : World} {o : Object} {ks : List Key} {qs : List (Key × Object)} {uid : String}

/-- An application succeeds just if all calls on the tracker and all steps do. -/
theorem apply_eq_ok (enabled : f.isEnabled = .ok true) : f.apply w = (.ok (), w') ↔
    ∃ tracker w₁ w₂, f.Tracked tracker w w₁ w₂ (.ok ()) w' ∧ f.applySteps tracker w₁ = (.ok (), w₂) := by
  constructor
  · intro h
    rw [apply_of_enabled enabled] at h
    obtain ⟨⟨tracker, previous⟩, wₜ, hensure, h⟩ := bind_eq_ok.mp h
    obtain ⟨progressing, w₁, hannounce, h⟩ := bind_eq_ok.mp h
    rcases hsteps : f.applySteps tracker w₁ with ⟨outcome, w₂⟩
    rw [bind_ok (outcome_eq hsteps)] at h
    rcases hreport : f.report progressing outcome w₂ with ⟨reported, w₃⟩
    rw [bind_ok (outcome_eq hreport)] at h
    rcases outcome with e | ⟨⟩
    · cases h
    rcases reported with e | ⟨⟩ <;> cases h
    exact ⟨tracker, w₁, w₂, ⟨enabled, previous, progressing, wₜ, hensure, hannounce, hreport⟩, hsteps⟩
  · rintro ⟨tracker, w₁, w₂, htracked, hsteps⟩
    exact htracked.apply_eq hsteps

/-! ### The calls on the tracker -/

/-- What the calls on the tracker before the steps leave: the tracker was applied, and nothing else was. -/
structure Opened (f : Feature) (tracker : OwnerReference) (w wₐ : World) (o : Object) : Prop where
  advances : w.Advances [f.trackerKey] wₐ
  others : ∀ k, k ≠ f.trackerKey → wₐ.cluster.object? k = w.cluster.object? k
  stored : wₐ.cluster.object? f.trackerKey = some o
  uid : o.metadata.uid = some tracker.uid
  annotations : o.metadata.annotations = none
  owners : o.metadata.owners.countP (·.uid == tracker.uid) ≤ 1

/-- The tracker is applied with a UID that comes back, and its status can be written before the clock shows a year of
    more than four digits. -/
theorem opened (calm : w.Calm) (hensure : f.ensureTracker w = (.ok (tracker, previous), wₜ))
    (hannounce : f.announce previous wₜ = (.ok progressing, wₐ)) :
    ∃ o, f.Opened tracker w wₐ o ∧ tracker = f.trackerReference tracker.uid ∧
      Tracker.resource.kind ∉ w.hiddenUids ∧ (wₐ.clock.next.Dated → progressing.Writable) := by
  obtain ⟨o, wₜ', happly, hadvancesₜ, hworld, hresult⟩ := f.ensureTracker_calm calm
  rw [hensure] at hworld hresult
  obtain rfl : wₜ = wₜ' := hworld
  obtain ⟨uid, hshown, rfl, hread⟩ := (hresult tracker previous).mp rfl
  obtain ⟨hvisible, huid⟩ := World.returned_uid_iff.mp hshown
  obtain ⟨-, hobject, -, -, -, hannotations, -, howners⟩ := Cluster.apply_ok happly
  rw [newTracker_keyIn] at hobject
  have ho : wₜ.cluster.object? f.trackerKey = some o := (hobject _).trans (if_pos rfl)
  obtain ⟨wₐ', hannounce', hcluster, hadvances, hclock⟩ := announce_calm (hadvancesₜ.calm calm) ho previous
  cases hannounce.symm.trans hannounce'
  let s := TrackerStatus.progressing f.name previous wₜ.clock
  refine ⟨o.withStatus s.1.toJson, ⟨hadvancesₜ.trans hadvances, fun k hk => ?_, ?_, huid, hannotations, ?_⟩, rfl,
    hvisible, fun hdated => ?_⟩
  · rw [hcluster, Cluster.object?_put, if_neg hk, hobject, if_neg hk]
  · rw [hcluster, Cluster.object?_put, if_pos rfl]
  · have howners : o.metadata.owners = f.owner.toList := by
      unfold ObjectMeta.owners
      rw [howners]
      cases howner : f.owner <;> simp [newTracker, Tracker.toObject, Tracker.ofFeature, howner]
    show o.metadata.owners.countP _ ≤ 1
    rw [howners]
    exact List.countP_le_length.trans (by cases f.owner <;> simp)
  · refine TrackerStatus.report_writable ?_ (Clock.dated_of_le hdated hclock)
    cases previous with
    | none => exact List.forall_mem_nil _
    | some s =>
      obtain ⟨j, hj⟩ := Json.read_of_optional hread rfl
      exact TrackerStatus.writable_of_ofJson? hj

/-- A tracker that is there and whose status can be read is applied again under its UID. -/
theorem opens (calm : w.Calm) (hvisible : Tracker.resource.kind ∉ w.hiddenUids)
    (ho : w.cluster.object? f.trackerKey = some o) (huid : o.metadata.uid = some uid)
    (hread : Json.optional o.content "status" TrackerStatus.ofJson? = some previous) :
    ∃ wₜ progressing wₐ, f.ensureTracker w = (.ok (f.trackerReference uid, previous), wₜ) ∧
      f.announce previous wₜ = (.ok progressing, wₐ) := by
  obtain ⟨o', wₜ, happly, hadvances, hworld, hresult⟩ := f.ensureTracker_calm calm
  have huid' : (World.returned w.hiddenUids Tracker.resource o').metadata.uid = some uid :=
    World.returned_uid_iff.mpr ⟨hvisible, (Cluster.apply_uid happly ho).trans huid⟩
  have hstatus : Dict.get? o'.content "status" = Dict.get? o.content "status" := by
    have hinherited := (Cluster.apply_content happly).2
    rw [newTracker_keyIn, ho] at hinherited
    exact hinherited
  have hensure : f.ensureTracker w = (.ok (f.trackerReference uid, previous), wₜ) :=
    Prod.ext ((hresult _ _).mpr ⟨uid, huid', rfl, (Json.optional_congr hstatus _).trans hread⟩) hworld
  have ho' : wₜ.cluster.object? f.trackerKey = some o' := by
    obtain ⟨-, hobject, -⟩ := Cluster.apply_ok happly
    exact (hobject _).trans (if_pos rfl)
  obtain ⟨wₐ, hannounce, -⟩ := announce_calm (hadvances.calm calm) ho' previous
  exact ⟨wₜ, _, wₐ, hensure, hannounce⟩

/-! ### One application -/

/-- What an application leaves that settled these objects, from the world on in which its steps began. The status of
    the tracker can be read again before the clock shows a year of more than four digits. -/
structure Applied (f : Feature) (tracker : OwnerReference) (qs : List (Key × Object)) (w wₐ : World) (ks : List Key)
    (w' : World) : Prop where
  advances : w.Advances ks w'
  others : ∀ k, k ≠ f.trackerKey → w'.cluster.object? k = (qs.foldl f.settle wₐ.cluster).object? k
  stored : ∃ o, w'.cluster.object? f.trackerKey = some o ∧ o.metadata.uid = some tracker.uid ∧
    (w'.clock.next.Dated → ∃ s, Json.optional o.content "status" TrackerStatus.ofJson? = some (some s))
  once : ∀ k, k ∈ ks ∨ w.cluster.OwnedOnce tracker.uid k → w'.cluster.OwnedOnce tracker.uid k

theorem Opened.once {k : Key} (h : f.Opened tracker w wₐ o)
    (hk : k = f.trackerKey ∨ w.cluster.OwnedOnce tracker.uid k) : wₐ.cluster.OwnedOnce tracker.uid k := by
  by_cases heq : k = f.trackerKey
  · exact heq ▸ ⟨o, h.stored, h.owners⟩
  · obtain ⟨old, hold, honce⟩ := hk.resolve_left heq
    exact ⟨old, (h.others k heq).trans hold, honce⟩

/-- The steps settle the objects, and the report at the end only touches the status of the tracker. -/
theorem Opened.applied (h : f.Opened tracker w wₐ o) (calm : w.Calm)
    (hwritable : wₐ.clock.next.Dated → progressing.Writable) (hcluster : wᵥ.cluster = qs.foldl f.settle wₐ.cluster)
    (hadvances : wₐ.Advances ks wᵥ)
    (honce : ∀ k, k ∈ ks ∨ wₐ.cluster.OwnedOnce tracker.uid k → wᵥ.cluster.OwnedOnce tracker.uid k) :
    ∃ w', f.report progressing (.ok ()) wᵥ = (.ok (), w') ∧
      f.Applied tracker qs w wₐ (f.trackerKey :: ks) w' := by
  obtain ⟨o', ho', huid⟩ := foldl_settle_uid h.stored qs
  rw [← hcluster] at ho'
  have calmᵥ : wᵥ.Calm := hadvances.calm (h.advances.calm calm)
  obtain ⟨w', hreport, hput, hadvances', hclock⟩ := report_calm calmᵥ ho' progressing
  let s := TrackerStatus.ready f.name progressing wᵥ.clock
  have hstored : ∀ k, w'.cluster.object? k =
      if k = f.trackerKey then some (o'.withStatus s.1.toJson) else wᵥ.cluster.object? k := fun k => by
    rw [hput]
    exact Cluster.object?_put _ _ _ _
  have hall := (h.advances.trans hadvances).trans hadvances'
  rw [List.append_nil] at hall
  refine ⟨w', hreport, hall, fun k hk => ?_,
    ⟨_, (hstored _).trans (if_pos rfl), huid.trans h.uid, fun hdated => ?_⟩, fun k hk => ?_⟩
  · rw [hstored, if_neg hk, hcluster]
  · have hbegan : wₐ.clock.next.Dated :=
      Clock.dated_of_le hdated (Nat.le_trans hadvances.clock hadvances'.clock)
    have hready : s.1.Writable := TrackerStatus.report_writable (hwritable hbegan) (Clock.dated_of_le hdated hclock)
    obtain ⟨hphase, -⟩ := TrackerStatus.ready_tells f.name progressing wᵥ.clock
    exact ⟨_, (TrackerStatus.shows hphase o').read hready⟩
  · have hsettled : wᵥ.cluster.OwnedOnce tracker.uid k := by
      refine honce k ?_
      rw [List.mem_cons] at hk
      exact hk.elim (fun hk => hk.elim (fun hk => .inr (h.once (.inl hk))) .inl) fun hk => .inr (h.once (.inr hk))
    obtain ⟨x, hx, hxonce⟩ := hsettled
    by_cases heq : k = f.trackerKey
    · subst heq
      cases ho'.symm.trans hx
      exact ⟨_, (hstored _).trans (if_pos rfl), hxonce⟩
    · exact ⟨x, (hstored k).trans ((if_neg heq).trans hx), hxonce⟩

/-! ### Another application -/

/-- Objects that were accepted when they were applied are accepted in a world where only the tracker was applied again
    since. -/
theorem Opened.accepts {w₁ wₐ₁ : World} {o₁ : Object} (h : f.Opened tracker w wₐ o)
    (h₁ : f.Opened tracker w₁ wₐ₁ o₁) (haccepts : f.AcceptsAll wₐ.cluster qs)
    (hmanaged : f.managed = true → ∀ q ∈ qs, f.leaves q.2 = false)
    (hothers : ∀ k, k ≠ f.trackerKey → w₁.cluster.object? k = (qs.foldl f.settle wₐ.cluster).object? k) :
    f.AcceptsAll wₐ₁.cluster qs := by
  refine acceptsAll_of_forall fun q hq => (haccepts.settled q hq).imp_right fun hleft => ?_
  by_cases hkey : q.1 = f.trackerKey
  · rw [hkey] at hleft ⊢
    rw [h₁.stored, Option.any_some, leaves_congr (h₁.annotations.trans h.annotations.symm)]
    by_contra hkept
    have hfree : f.leaves o = false := Bool.eq_false_iff.mpr hkept
    -- The tracker carries no marker, so it is not left alone only if the feature is managed.
    have hm : f.managed = true := by
      unfold leaves ObjectMeta.annotation? at hfree
      rw [h.annotations] at hfree
      simpa using hfree
    have hxs : ∀ x ∈ Cluster.under f.trackerKey qs, f.leaves x = false := fun x hx => by
      obtain ⟨q', hq', rfl⟩ := List.mem_map.mp hx
      exact hmanaged hm q' (List.mem_filter.mp hq').1
    rw [foldl_settle_object? (.inl (by rw [h.stored]; rfl)), h.stored, Option.map_some, Option.any_some,
      (foldl_revised_of_free hfree hxs).2] at hleft
    cases hleft
  · rwa [h₁.others _ hkey, hothers _ hkey]

/-- Nothing goes between the steps of one application and those of the next. -/
theorem Opened.persists {w₁ wₐ₁ : World} {o₁ : Object} (h : f.Opened tracker w wₐ o)
    (happlied : f.Applied tracker qs w wₐ ks w₁) (h₁ : f.Opened tracker w₁ wₐ₁ o₁) : wₐ.Persists wₐ₁ := by
  have hlater : w.Persists wₐ₁ := happlied.advances.toPersists.trans h₁.advances.toPersists
  refine (World.Persists.refl w).between h.advances.toPersists hlater fun k hk => ?_
  by_cases heq : k = f.trackerKey
  · rw [heq, h₁.stored]
    rfl
  · rw [h.others k heq] at hk
    exact hlater.present k hk

/-- Applying a feature again right after it was applied succeeds, and leaves all objects as they are, its own tracker
    apart. What either of the two applications wrote has the tracker as an owner at most once. The clock shows a year of
    four digits, or else the status that the first one left cannot be read. -/
theorem apply_again (enabled : f.isEnabled = .ok true) (plain : ∀ m ∈ f.manifests, m.isPatch = false)
    (steady : f.Steady) (calm : w.Calm) (h : f.apply w = (.ok (), w₁)) (dated : w₁.clock.next.Dated) :
    ∃ w₂, f.apply w₁ = (.ok (), w₂) ∧
      (∀ k, k ≠ f.trackerKey → w₂.cluster.object? k = w₁.cluster.object? k) ∧
      ∃ uid, (∃ o, w₂.cluster.object? f.trackerKey = some o ∧ o.metadata.uid = some uid) ∧
        ∀ k ∈ w.applied w₂, w₂.cluster.OwnedOnce uid k := by
  obtain ⟨tracker, wₐ, wᵥ, ⟨-, previous, progressing, wₜ, hensure, hannounce, hreport⟩, hsteps⟩ :=
    (apply_eq_ok enabled).mp h
  obtain ⟨o, hopened, htracker, hvisible, hwritable⟩ := opened calm hensure hannounce
  have calmₐ : wₐ.Calm := hopened.advances.calm calm
  obtain ⟨qs, haccepts, hmanaged, hsettles⟩ := applySteps_settles plain steady calmₐ hsteps
  obtain ⟨ks, wᵥ', hsteps', hcluster, hadvances, honce⟩ := hsettles wₐ (.refl wₐ) haccepts
  cases hsteps.symm.trans hsteps'
  obtain ⟨w₁', hreport', happlied⟩ := hopened.applied calm hwritable hcluster hadvances honce
  cases hreport.symm.trans hreport'
  -- The second application, in the world that the first one left.
  have calm₁ : w₁.Calm := happlied.advances.calm calm
  obtain ⟨o', ho', huid, hread⟩ := happlied.stored
  obtain ⟨s, hs⟩ := hread dated
  obtain ⟨wₜ₁, progressing₁, wₐ₁, hensure₁, hannounce₁⟩ :=
    opens calm₁ (happlied.advances.hidden ▸ hvisible) ho' huid hs
  rw [← htracker] at hensure₁
  obtain ⟨o₁, hopened₁, -, -, hwritable₁⟩ := opened calm₁ hensure₁ hannounce₁
  obtain ⟨ks₁, wᵥ₁, hsteps₁, hcluster₁, hadvances₁, honce₁⟩ := hsettles wₐ₁ (hopened.persists happlied hopened₁)
    (hopened.accepts hopened₁ haccepts hmanaged happlied.others)
  obtain ⟨w₂, hreport₁, happlied₁⟩ := hopened₁.applied calm₁ hwritable₁ hcluster₁ hadvances₁ honce₁
  refine ⟨w₂, (apply_eq_ok enabled).mpr ⟨tracker, wₐ₁, wᵥ₁, ⟨enabled, _, _, wₜ₁, hensure₁, hannounce₁, hreport₁⟩,
    hsteps₁⟩, fun k hk => ?_, tracker.uid, ?_, fun k hk => ?_⟩
  · have hrests : wₐ₁.cluster.object? k = (qs.foldl f.settle wₐ.cluster).object? k :=
      (hopened₁.others k hk).trans (happlied.others k hk)
    rw [happlied₁.others k hk, foldl_settle_again hrests, hopened₁.others k hk]
  · obtain ⟨o₂, ho₂, huid₂, -⟩ := happlied₁.stored
    exact ⟨o₂, ho₂, huid₂⟩
  · rw [(happlied.advances.trans happlied₁.advances).applied_eq, List.mem_append] at hk
    exact happlied₁.once k (hk.elim (fun hk => .inr (happlied.once k (.inl hk))) .inl)

namespace Sample

def settingsText (metadata : String) : String :=
  "apiVersion: v1\nkind: ConfigMap\nmetadata:\n  name: settings\n" ++ metadata

/-- Two manifests for one map. The first one marks it as managed, so that the second one is applied over it, and takes
    the marker away. -/
def remarking : Feature where
  name := "remarking"
  targetNamespace := "apps"
  appNamespace := "apps"
  preconditions := [FeatureHook.ensureDefinition "widgets.example.com"]
  data := [("greeting", fun _ => pure (.str "hello"))]
  manifests := [
    ⟨"marked.yaml", settingsText "  annotations:\n    opendatahub.io/managed: \"true\"\n  finalizers: [x]\n"⟩,
    ⟨"plain.yaml", settingsText "data:\n  color: blue\n"⟩]

/-- A cluster that defines what the feature asks for. -/
def defined : World where
  cluster := Cluster.empty.insert {
    types := some ⟨"apiextensions.k8s.io/v1", "CustomResourceDefinition"⟩
    metadata := { name := some "widgets.example.com" } }

end Sample

open Feature.Sample in
/-- The second application leaves the map alone that the first one wrote twice. -/
theorem apply_again_sample :
    let k : Key := ⟨"", "ConfigMap", some "apps", "settings"⟩
    let w₁ := (remarking.apply defined).2
    let w₂ := (remarking.apply w₁).2
    (remarking.apply defined).1 = .ok () ∧ (defined.applied w₁).count k = 2 ∧ (remarking.apply w₁).1 = .ok () ∧
      (defined.applied w₂).count k = 2 ∧ w₂.cluster.object? k = w₁.cluster.object? k ∧
        ∃ uid, w₂.cluster.OwnedOnce uid k := by
  intro k w₁ w₂
  obtain ⟨hok, happlied, hagain, hdated⟩ : (remarking.apply defined).1.isOk = true ∧
      (defined.applied w₁).count k = 2 ∧ (defined.applied w₂).count k = 2 ∧ w₁.clock.next.Dated := by
    decide +kernel
  have hfirst : remarking.apply defined = (.ok (), w₁) := Computation.eq_ok_of_isOk hok
  have steady : remarking.Steady := {
    preconditions := List.forall_mem_singleton.mpr (FeatureHook.ensureDefinition_steady _ _)
    data := List.forall_mem_singleton.mpr (steady_pure _)
    resources := List.forall_mem_nil _
    postconditions := List.forall_mem_nil _ }
  obtain ⟨w', hsecond, hsame, uid, -, honce⟩ :=
    apply_again rfl (by decide +kernel) steady ⟨rfl, rfl⟩ hfirst hdated
  have hw' : w₂ = w' := congrArg Prod.snd hsecond
  refine ⟨congrArg Prod.fst hfirst, happlied, congrArg Prod.fst hsecond, hagain, ?_, uid, ?_⟩
  · rw [hw']
    exact hsame k (by decide +kernel)
  · rw [hw']
    refine honce k (List.count_pos_iff.mp ?_)
    rw [← hw', hagain]
    decide

end Feature
end PlatformOperator
