import PlatformOperator.Proofs.Collector.Pass

/-! What a pass of the collector leaves: of every type it accepts, each object that is still there has been decided
    on, and those accepted are only waiting for their finalizers. Where that is so, a pass does nothing. -/

namespace PlatformOperator

theorem Object.Persists.ofObject {o o' : Object} (h : o.Persists o') : Key.ofObject o' = Key.ofObject o := by
  rcases h with rfl | h
  · rfl
  · cases h with
    | marked now _ _ => rfl

theorem Object.Persists.labels {o o' : Object} (h : o.Persists o') : o'.metadata.labels = o.metadata.labels := by
  rcases h with rfl | h
  · rfl
  · cases h with
    | marked now _ _ => rfl

namespace Cluster
variable {c c' : Cluster} {policy : Propagation} {T : Key → Prop} {r : ApiResource} {selector : Option String}
  {os : List Object} {o : Object} {e : ApiError}

/-- The objects under their own keys stay there in a sweep. -/
theorem Sweeps.ownKeys (h : c.Sweeps policy T c') (own : c.OwnKeys) : c'.OwnKeys := by
  intro k o' ho'
  obtain ⟨o, ho, hpersists⟩ := h.before ho'
  rw [hpersists.ofObject]
  exact own k o ho

/-- Whether a type can be listed does not depend on the objects. -/
theorem Sweeps.list_eq_error (h : c.Sweeps policy T c') :
    c'.list r none selector = .error e ↔ c.list r none selector = .error e := by
  rw [list, list, h.settings.listRefusals]
  cases c.listRefusals.lookup r.kind <;> simp

/-- What is listed after a sweep was listed before under the same key, or is what the sweep left of that. -/
theorem Sweeps.list (h : c.Sweeps policy T c') (hlist : c'.list r none selector = .ok os) :
    ∃ os₀, c.list r none selector = .ok os₀ ∧ ∀ o ∈ os, ∃ k, c'.object? k = some o ∧ k.group = r.group ∧
      k.kind = r.kind ∧ ∃ o₀ ∈ os₀, c.object? k = some o₀ ∧ o₀.Persists o := by
  cases hlist₀ : c.list r none selector with
  | error e => cases hlist.symm.trans (h.list_eq_error.mpr hlist₀)
  | ok os₀ =>
    refine ⟨os₀, rfl, fun o ho => ?_⟩
    obtain ⟨k, hk, hgroup, hkind, hselected⟩ := (mem_list hlist).mp ho
    obtain ⟨o₀, ho₀, hpersists⟩ := h.before hk
    have hmem : o₀ ∈ os₀ := (mem_list hlist₀).mpr ⟨k, ho₀, hgroup, hkind, hpersists.labels ▸ hselected⟩
    exact ⟨k, hk, hgroup, hkind, o₀, hmem, ho₀, hpersists⟩

end Cluster

namespace PassOptions

/-- Whether an object is accepted does not depend on when it was marked as terminating. -/
def Timeless (options : PassOptions) : Prop :=
  ∀ o now, options.acceptsObject (o.markedAt now) = options.acceptsObject o

/-- Nothing is left to do about the object: it is decided on, and terminating if it is accepted. -/
def Done (options : PassOptions) (o : Object) : Prop :=
  ∃ accepted, options.acceptsObject o = .ok accepted ∧ (accepted = true → o.metadata.isTerminating = true)

/-- Nothing is left to do about the objects of the type. -/
structure Settled (options : PassOptions) (t : CatalogType) (c : Cluster) : Prop where
  listable : ∀ e, c.list t.apiResource none options.selector = .error e →
    (e.isForbidden || e.isMethodNotAllowed || e.isNotFound) = true
  done : ∀ os, c.list t.apiResource none options.selector = .ok os → ∀ o ∈ os, options.Done o

/-- Nothing is left to do about the types: each is passed over, or it is accepted and its objects are settled. -/
def Rests (options : PassOptions) (types : List CatalogType) (c : Cluster) : Prop :=
  ∀ t ∈ types, options.acceptsType t = .ok false ∨ options.acceptsType t = .ok true ∧ options.Settled t c

section
variable {options : PassOptions} {policy : Propagation} {types : List CatalogType} {t : CatalogType}
  {T : Key → Prop} {c c' : Cluster} {o o' : Object}

theorem Timeless.persists (timeless : options.Timeless) (h : o.Persists o') :
    options.acceptsObject o' = options.acceptsObject o := by
  rcases h with rfl | h
  · rfl
  · cases h with
    | marked now _ _ => exact timeless o now

theorem Done.persists (timeless : options.Timeless) (hdone : options.Done o) (h : o.Persists o') :
    options.Done o' := by
  obtain ⟨accepted, hacc, hterm⟩ := hdone
  refine ⟨accepted, (timeless.persists h).trans hacc, fun htrue => ?_⟩
  rcases h with rfl | h
  · exact hterm htrue
  · exact h.of_some.2.2

/-- Deletions leave nothing new to do. -/
theorem Settled.sweep (timeless : options.Timeless) (h : options.Settled t c) (hs : c.Sweeps policy T c') :
    options.Settled t c' where
  listable e he := h.listable e (hs.list_eq_error.mp he)
  done os hlist o' ho' := by
    obtain ⟨os₀, hlist₀, hbefore⟩ := hs.list hlist
    obtain ⟨-, -, -, -, o, ho, -, hpersists⟩ := hbefore o' ho'
    exact (h.done os₀ hlist₀ o ho).persists timeless hpersists

end
end PassOptions

namespace Engine
open PassOptions

section
variable {options : PassOptions} {policy : Propagation} {t : CatalogType} {w w₁ w' : World} {o : Object} {n n' : Nat}
  {os : List Object}

/-! ### What a pass leaves -/

/-- Once the objects of a type are gone through, that type is settled. -/
theorem passObjects_settles (timeless : options.Timeless) (own : w.cluster.OwnKeys) (calm : w.Calm)
    (willing : w.cluster.deleteRefusals = []) (hlist : listObjects options t w = (.ok os, w₁))
    (h : passObjects options policy t os n w₁ = (.ok n', w')) : options.Settled t w'.cluster := by
  obtain ⟨rfl, hos⟩ := listObjects_cases calm hlist
  obtain ⟨-, hdecided, hs⟩ := passObjects_ok (World.SameSettings.called _ w |>.calm calm) willing h
  constructor
  · intro e he
    rw [hs.list_eq_error] at he
    rcases hos with hos | ⟨-, e', he', htolerated⟩
    · cases he.symm.trans hos
    · cases he.symm.trans he'
      exact htolerated
  · intro os' hlist' o' ho'
    obtain ⟨os₀, hlist₀, hbefore⟩ := hs.list hlist'
    obtain ⟨k, hk, hgroup, hkind, o, hmem, ho, hpersists⟩ := hbefore o' ho'
    have hsame : os₀ = os := by
      rcases hos with hos | ⟨-, e, he, -⟩
      · exact Except.ok.inj (hlist₀.symm.trans hos)
      · cases hlist₀.symm.trans he
    subst hsame
    obtain ⟨accepted, hacc⟩ := hdecided o hmem
    cases hlive : o.metadata.isTerminating with
    | true => exact Done.persists timeless ⟨accepted, hacc, fun _ => hlive⟩ hpersists
    | false =>
      refine ⟨accepted, (timeless.persists hpersists).trans hacc, fun htrue => ?_⟩
      subst htrue
      -- The key that the object tells is its own, so it is among the swept ones.
      have htold : Key.ofResource t.apiResource o.metadata.namespace o.name = k := by
        rw [← told_of_ofObject (own k o ho), Key.told, hgroup, hkind]
        rfl
      exact (hs.targets k ⟨o, ⟨hmem, hlive, htold⟩, hacc⟩ o' hk).2

/-- A pass that ended well leaves nothing to do about its types. -/
theorem passTypes_rests (timeless : options.Timeless) : ∀ {ts : List CatalogType} {n : Nat} {w : World},
    w.Calm → w.cluster.deleteRefusals = [] → w.cluster.OwnKeys → passTypes options policy ts n w = (.ok n', w') →
    options.Rests ts w'.cluster
  | [], _, _, _, _, _, _ => fun _ ht => absurd ht List.not_mem_nil
  | t :: ts, n, w, calm, willing, own, h => by
    rw [passTypes] at h
    cases htype : options.acceptsType t with
    | error c =>
      rw [htype] at h
      cases h
    | ok accepted =>
      rw [htype] at h
      cases accepted with
      | false => exact List.forall_mem_cons.mpr ⟨.inl htype, passTypes_rests timeless calm willing own h⟩
      | true =>
        obtain ⟨os, w₁, hlist, h⟩ := Computation.bind_eq_ok.mp h
        obtain ⟨m, w₂, hobjects, hothers⟩ := Computation.bind_eq_ok.mp h
        have hsettled := passObjects_settles timeless own calm willing hlist hobjects
        obtain ⟨rfl, -⟩ := listObjects_cases calm hlist
        have hset₁ := World.SameSettings.called (.list t.apiResource none options.selector) w
        obtain ⟨hset₂, -, hs⟩ := passObjects_ok (hset₁.calm calm) willing hobjects
        have calm₂ := hset₂.calm (hset₁.calm calm)
        have willing₂ := hset₂.cluster.deleteRefusals.trans willing
        obtain ⟨-, T, hpass⟩ := passTypes_ok calm₂ willing₂ hothers
        exact List.forall_mem_cons.mpr ⟨.inr ⟨htype, hsettled.sweep timeless hpass.sweeps⟩,
          passTypes_rests timeless calm₂ willing₂ (hs.ownKeys own) hothers⟩

/-! ### A pass with nothing to do -/

theorem passObjects_of_done : ∀ {os : List Object}, (∀ o ∈ os, options.Done o) →
    passObjects options policy t os n w = (.ok n, w)
  | [], _ => rfl
  | o :: os, h => by
    obtain ⟨accepted, hacc, hterm⟩ := h o List.mem_cons_self
    have hleft : (accepted && !o.metadata.isTerminating) = false := by
      cases accepted with
      | false => rfl
      | true => rw [hterm rfl]; rfl
    rw [passObjects, hacc]
    dsimp only
    rw [if_neg (by rw [hleft]; exact Bool.false_ne_true)]
    exact passObjects_of_done fun o ho => h o (List.mem_cons_of_mem _ ho)

theorem listObjects_of_settled (calm : w.Calm) (h : options.Settled t w.cluster) :
    ∃ os, listObjects options t w = (.ok os, w.called (.list t.apiResource none options.selector)) ∧
      ∀ o ∈ os, options.Done o := by
  rw [listObjects, Computation.bind_ok (Op.outcome_eq (World.list_calm calm _ _ _))]
  cases hlist : w.cluster.list t.apiResource none options.selector with
  | ok os => exact ⟨os, rfl, h.done os hlist⟩
  | error e =>
    dsimp only
    rw [if_pos (h.listable e hlist)]
    exact ⟨[], rfl, List.forall_mem_nil _⟩

/-- Where nothing is left to do, a pass lists objects and counts nothing. -/
theorem passTypes_of_rests (policy : Propagation) (n : Nat) : ∀ {ts : List CatalogType} {w : World}, w.Calm →
    options.Rests ts w.cluster → ∃ calls : List Call, (∀ call ∈ calls, call.verb = "list") ∧
      passTypes options policy ts n w = (.ok n, { w with calls := w.calls ++ calls })
  | [], w, _, _ => ⟨[], List.forall_mem_nil _, by rw [List.append_nil]; rfl⟩
  | t :: ts, w, calm, h => by
    obtain ⟨hfirst, hrest⟩ := List.forall_mem_cons.mp h
    rcases hfirst with htype | ⟨htype, hsettled⟩
    · obtain ⟨calls, hcalls, hpass⟩ := passTypes_of_rests policy n calm hrest
      refine ⟨calls, hcalls, ?_⟩
      rw [passTypes, htype]
      exact hpass
    · obtain ⟨os, hlist, hdone⟩ := listObjects_of_settled calm hsettled
      let call := Call.list t.apiResource none options.selector
      obtain ⟨calls, hcalls, hpass⟩ := passTypes_of_rests policy n (World.SameSettings.called call w |>.calm calm) hrest
      refine ⟨call :: calls, List.forall_mem_cons.mpr ⟨rfl, hcalls⟩, ?_⟩
      rw [passTypes, htype]
      dsimp only
      rw [Computation.bind_ok hlist, Computation.bind_ok (passObjects_of_done hdone), hpass]
      simp only [World.called, call, List.append_assoc, List.singleton_append]

end
end Engine
end PlatformOperator
