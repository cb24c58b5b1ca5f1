import PlatformOperator.Collector
import PlatformOperator.Proofs.World.Calls

/-! A pass of the collector goes through types and their objects on a cluster that its own deletions keep
    changing. What it comes to in the end depends on the cluster at its start alone: the objects due there
    are swept (`Passes`), whichever of them other deletions take along before their turn. -/

namespace PlatformOperator

/-- The key of the type of `k` that an object tells by its namespace and name. -/
def Key.told (k : Key) (o : Object) : Key := { k with «namespace» := o.metadata.namespace, name := o.name }

/-- Every object is stored under the key it tells. -/
def Cluster.OwnKeys (c : Cluster) : Prop := ∀ k o, c.object? k = some o → Key.ofObject o = k

theorem Cluster.granted_of_list {c : Cluster} {r : ApiResource} {selector : Option String} {os : List Object}
    (h : c.list r none selector = .ok os) : c.listRefusals.lookup r.kind = none := by
  rw [list] at h
  split at h
  · cases h
  · assumption

/-- The objects in the list of a type are the stored ones that the selector accepts. -/
theorem Cluster.mem_list {c : Cluster} {r : ApiResource} {selector : Option String} {os : List Object} {o : Object}
    (h : c.list r none selector = .ok os) :
    o ∈ os ↔ ∃ k, c.object? k = some o ∧ k.group = r.group ∧ k.kind = r.kind ∧
      selector.all (Selector.selects · (o.metadata.labels.getD [])) = true := by
  rw [list] at h
  split at h
  · cases h
  · cases h
    simp only [List.mem_map, List.mem_filter, Prod.exists, mem_objects, Option.isNone_none, Bool.true_or, Bool.and_true,
      Bool.and_eq_true, beq_iff_eq]
    constructor
    · rintro ⟨k, o, ⟨hk, ⟨hgroup, hkind⟩, hselected⟩, rfl⟩
      exact ⟨k, hk, hgroup, hkind, hselected⟩
    · rintro ⟨k, hk, hgroup, hkind, hselected⟩
      exact ⟨k, o, ⟨hk, ⟨hgroup, hkind⟩, hselected⟩, rfl⟩

namespace PassOptions

/-- A live object that a pass by `types` lists. -/
structure Listed (options : PassOptions) (types : List CatalogType) (c : Cluster) (k : Key) (o : Object) : Prop where
  stored : c.object? k = some o
  type : ∃ t ∈ types, t.group = k.group ∧ t.kind = k.kind ∧ options.acceptsType t = .ok true
  granted : c.listRefusals.lookup k.kind = none
  selected : options.selector.all (Selector.selects · (o.metadata.labels.getD []))
  live : o.metadata.isTerminating = false

/-- A listed object that is accepted. -/
structure Due (options : PassOptions) (types : List CatalogType) (c : Cluster) (k : Key) (o : Object) : Prop
    extends Listed options types c k o where
  accepted : options.acceptsObject o = .ok true

/-- Between the states the objects under the keys `T` were deleted, as due objects told them. Each listed
    object was decided on, unless it was deleted before its turn. -/
structure Passes (options : PassOptions) (policy : Propagation) (types : List CatalogType) (T : Key → Prop)
    (c c' : Cluster) : Prop where
  sweeps : c.Sweeps policy T c'
  told : ∀ k, T k → ∃ k₀ o, options.Due types c k₀ o ∧ k₀.told o = k
  decided : ∀ k o, options.Listed types c k o →
    c'.Withdrawn k ∨ ∃ accepted, options.acceptsObject o = .ok accepted ∧ (accepted = true → T (k.told o))

section
variable {options : PassOptions} {policy : Propagation} {types : List CatalogType} {t : CatalogType}
  {T T' : Key → Prop} {c c₁ c' : Cluster} {k : Key} {o : Object}

theorem told_of_ofObject (h : Key.ofObject o = k) : k.told o = k := by
  subst h
  rfl

theorem Listed.tail (h : options.Listed types c k o) : options.Listed (t :: types) c k o :=
  { h with type := h.type.imp fun _ h => ⟨List.mem_cons_of_mem _ h.1, h.2⟩ }

theorem Listed.head (h : options.Listed [t] c k o) : options.Listed (t :: types) c k o := by
  obtain ⟨t', ht', htype⟩ := h.type
  cases List.mem_singleton.mp ht'
  exact { h with type := ⟨t, List.mem_cons_self, htype⟩ }

/-- A listed object is of the first type or of another one. -/
theorem Listed.of_cons (h : options.Listed (t :: types) c k o) :
    options.Listed [t] c k o ∨ options.Listed types c k o := by
  obtain ⟨t', ht', htype⟩ := h.type
  rcases List.mem_cons.mp ht' with rfl | ht'
  · exact .inl { h with type := ⟨t', List.mem_singleton_self t', htype⟩ }
  · exact .inr { h with type := ⟨t', ht', htype⟩ }

/-- A sweep adds no object to the listed ones. -/
theorem Listed.before (hs : c.Sweeps policy T c') (h : options.Listed types c' k o) : options.Listed types c k o := by
  obtain ⟨o₀, ho₀, rfl | hdel⟩ := hs.before h.stored
  · exact { h with stored := ho₀, granted := hs.settings.listRefusals ▸ h.granted }
  · have hterm := hdel.of_some.2.2
    rw [h.live] at hterm
    cases hterm

/-- A listed object is still listed after a sweep, or the sweep deleted it. -/
theorem Listed.after (hs : c.Sweeps policy T c') (h : options.Listed types c k o) :
    options.Listed types c' k o ∨ c'.Withdrawn k := by
  rcases hs.objects k with heq | ⟨-, o₀, -, hdel⟩
  · exact .inl { h with stored := heq.trans h.stored, granted := hs.settings.listRefusals.symm ▸ h.granted }
  · refine .inr fun o' ho' => ?_
    rw [ho'] at hdel
    obtain ⟨hfin, hne, hterm⟩ := hdel.of_some
    exact ⟨hfin ▸ hne, hterm⟩

/-- The live objects in the list of a type, and the keys that their deletion looks for. -/
theorem listed_iff_mem_list {os : List Object} (hlist : c.list t.apiResource none options.selector = .ok os)
    (htype : options.acceptsType t = .ok true) :
    (∃ k₀, options.Listed [t] c k₀ o ∧ k₀.told o = k) ↔
      o ∈ os ∧ o.metadata.isTerminating = false ∧
        Key.ofResource t.apiResource o.metadata.namespace o.name = k := by
  have hgranted : c.listRefusals.lookup t.kind = none := Cluster.granted_of_list hlist
  rw [Cluster.mem_list hlist]
  constructor
  · rintro ⟨k₀, h, rfl⟩
    obtain ⟨t', ht', hgroup, hkind, -⟩ := h.type
    cases List.mem_singleton.mp ht'
    refine ⟨⟨k₀, h.stored, hgroup.symm, hkind.symm, h.selected⟩, h.live, ?_⟩
    rw [Key.told, Key.mk.injEq]
    exact ⟨hgroup, hkind, rfl, rfl⟩
  · rintro ⟨⟨k₀, hstored, hgroup, hkind, hselected⟩, hlive, rfl⟩
    refine ⟨k₀, ⟨hstored, ⟨t, List.mem_singleton_self t, hgroup.symm, hkind.symm, htype⟩, ?_, hselected, hlive⟩, ?_⟩
    · rw [hkind]
      exact hgranted
    · rw [Key.told, Key.ofResource, hgroup, hkind]

namespace Passes

theorem nil (options : PassOptions) (policy : Propagation) (c : Cluster) :
    Passes options policy [] (fun _ => False) c c where
  sweeps := .refl policy c
  told _ := False.elim
  decided k o h := by
    obtain ⟨t, ht, -⟩ := h.type
    cases ht

/-- A type of which nothing is listed is as good as none. -/
theorem skip (h : Passes options policy types T c c') (hnone : ∀ k o, ¬options.Listed [t] c k o) :
    Passes options policy (t :: types) T c c' where
  sweeps := h.sweeps
  told k hk := (h.told k hk).imp fun _ ⟨o, hdue, htold⟩ => ⟨o, { hdue.tail with accepted := hdue.accepted }, htold⟩
  decided k o hlisted := h.decided k o (hlisted.of_cons.resolve_left (hnone k o))

/-- The accepted objects of a first type are swept, and a pass by the other types follows. -/
theorem cons (hs : c.Sweeps policy T c₁) (hT : ∀ k, T k ↔ ∃ o k₀, options.Due [t] c k₀ o ∧ k₀.told o = k)
    (hdecided : ∀ k o, options.Listed [t] c k o → ∃ accepted, options.acceptsObject o = .ok accepted)
    (h : Passes options policy types T' c₁ c') :
    Passes options policy (t :: types) (fun k => T k ∨ T' k) c c' where
  sweeps := hs.trans h.sweeps
  told k := by
    rintro (hk | hk)
    · obtain ⟨o, k₀, hdue, htold⟩ := (hT k).mp hk
      exact ⟨k₀, o, { hdue.head with accepted := hdue.accepted }, htold⟩
    · obtain ⟨k₀, o, hdue, htold⟩ := h.told k hk
      exact ⟨k₀, o, { (hdue.before hs).tail with accepted := hdue.accepted }, htold⟩
  decided k o hlisted := by
    rcases hlisted.of_cons with hfirst | hother
    · obtain ⟨accepted, hacc⟩ := hdecided k o hfirst
      refine .inr ⟨accepted, hacc, fun htrue => .inl ((hT _).mpr ⟨o, k, ?_, rfl⟩)⟩
      exact { hfirst with accepted := htrue ▸ hacc }
    · rcases hother.after hs with hother | hgone
      · exact (h.decided k o hother).imp_right fun ⟨accepted, hacc, hT'⟩ => ⟨accepted, hacc, fun h => .inr (hT' h)⟩
      · exact .inl (h.sweeps.withdrawn hgone)

/-- No due object is passed over. -/
theorem complete (h : Passes options policy types T c c') (hdue : options.Due types c k o) :
    c'.Withdrawn k ∨ T (k.told o) := by
  refine (h.decided k o hdue.toListed).imp_right fun ⟨accepted, hacc, hT⟩ => hT ?_
  rw [hdue.accepted] at hacc
  cases hacc
  rfl

/-- Where every object is stored under its own key, a pass sweeps just the due objects. -/
theorem exact (own : c.OwnKeys) (h : Passes options policy types T c c') :
    c.Sweeps policy (fun k => ∃ o, options.Due types c k o) c' := by
  refine h.sweeps.widen (fun k hk => ?_) fun k ⟨o, hdue⟩ => ?_
  · obtain ⟨k₀, o, hdue, rfl⟩ := h.told k hk
    rw [told_of_ofObject (own k₀ o hdue.stored)]
    exact ⟨o, hdue⟩
  · rcases h.complete hdue with hgone | hk
    · exact hgone
    · rw [told_of_ofObject (own k o hdue.stored)] at hk
      exact h.sweeps.targets k hk

end Passes
end
end PassOptions

namespace Engine
open PassOptions

section
variable {options : PassOptions} {policy : Propagation} {t : CatalogType} {w w' : World} {o : Object} {n n' : Nat}

/-- A deletion ends well even if the object is gone. -/
theorem deleteObject_calm (calm : w.Calm) (willing : w.cluster.deleteRefusals = []) (t : CatalogType) (o : Object)
    (policy : Propagation) :
    ∃ w', deleteObject t o policy w = (.ok (), w') ∧ w.SameSettings w' ∧
      w.cluster.Sweeps policy (· = .ofResource t.apiResource o.metadata.namespace o.name) w'.cluster := by
  have hdel := World.delete_calm calm willing t.apiResource o.metadata.namespace o.name policy
  split at hdel
  · have hs := Cluster.remove_sweeps w.clock.next policy (.ofResource t.apiResource o.metadata.namespace o.name)
      w.cluster
    exact ⟨_, Computation.bind_ok (Op.outcome_eq hdel), ⟨rfl, rfl, rfl, hs.settings⟩, hs⟩
  · next hnone =>
    refine ⟨_, Computation.bind_ok (Op.outcome_eq hdel), ⟨rfl, rfl, rfl, .refl _⟩, ?_⟩
    exact Cluster.sweeps_of_withdrawn (Cluster.withdrawn_of_none (by simpa using hnone))

/-- Going through objects decides on each, and sweeps the keys that the accepted live ones tell. -/
theorem passObjects_ok : ∀ {os : List Object} {n : Nat} {w : World}, w.Calm → w.cluster.deleteRefusals = [] →
    passObjects options policy t os n w = (.ok n', w') →
    w.SameSettings w' ∧ (∀ o ∈ os, ∃ accepted, options.acceptsObject o = .ok accepted) ∧
      w.cluster.Sweeps policy (fun k => ∃ o, (o ∈ os ∧ o.metadata.isTerminating = false ∧
        Key.ofResource t.apiResource o.metadata.namespace o.name = k) ∧ options.acceptsObject o = .ok true) w'.cluster
  | [], n, w₀, _, _, h => by
    cases h
    refine ⟨.refl _, List.forall_mem_nil _, (Cluster.Sweeps.refl policy _).widen (fun _ => False.elim) ?_⟩
    rintro k ⟨o, ⟨ho, -⟩, -⟩
    cases ho
  | o :: os, n, w, calm, willing, h => by
    rw [passObjects] at h
    cases hacc : options.acceptsObject o with
    | error c =>
      rw [hacc] at h
      cases h
    | ok accepted =>
      simp only [hacc] at h
      split at h
      · next hdue =>
        simp only [Bool.and_eq_true, Bool.not_eq_true'] at hdue
        obtain ⟨rfl, hlive⟩ := hdue
        obtain ⟨w₁, hdel, hset, hs⟩ := deleteObject_calm calm willing t o policy
        rw [Computation.bind_ok hdel] at h
        obtain ⟨hset', hdec, hs'⟩ := passObjects_ok (hset.calm calm) (hset.cluster.deleteRefusals.trans willing) h
        refine ⟨hset.trans hset', List.forall_mem_cons.mpr ⟨⟨_, hacc⟩, hdec⟩, (hs.trans hs').widen ?_ ?_⟩
        · rintro k (rfl | ⟨o', ⟨ho', hk⟩, hacc'⟩)
          · exact ⟨o, ⟨List.mem_cons_self, hlive, rfl⟩, hacc⟩
          · exact ⟨o', ⟨List.mem_cons_of_mem o ho', hk⟩, hacc'⟩
        · rintro k ⟨o', ⟨ho', hk⟩, hacc'⟩
          refine (hs.trans hs').targets k ?_
          rcases List.mem_cons.mp ho' with rfl | ho'
          · exact .inl hk.2.symm
          · exact .inr ⟨o', ⟨ho', hk⟩, hacc'⟩
      · next hnot =>
        obtain ⟨hset, hdec, hs⟩ := passObjects_ok calm willing h
        refine ⟨hset, List.forall_mem_cons.mpr ⟨⟨_, hacc⟩, hdec⟩, hs.widen ?_ ?_⟩
        · rintro k ⟨o', ⟨ho', hk⟩, hacc'⟩
          exact ⟨o', ⟨List.mem_cons_of_mem o ho', hk⟩, hacc'⟩
        · rintro k ⟨o', ⟨ho', hlive, hk⟩, hacc'⟩
          rcases List.mem_cons.mp ho' with rfl | ho'
          · rw [hacc] at hacc'
            cases hacc'
            exact absurd (by rw [hlive]; rfl) hnot
          · exact hs.targets k ⟨o', ⟨ho', hlive, hk⟩, hacc'⟩

/-- The objects of a type are those of its list, and none if there is no such type or it may not be listed. -/
theorem listObjects_cases {os : List Object} (calm : w.Calm) (h : listObjects options t w = (.ok os, w')) :
    w' = w.called (.list t.apiResource none options.selector) ∧
      (w.cluster.list t.apiResource none options.selector = .ok os ∨
        os = [] ∧ ∃ e, w.cluster.list t.apiResource none options.selector = .error e ∧
          (e.isForbidden || e.isMethodNotAllowed || e.isNotFound) = true) := by
  rw [listObjects, Computation.bind_ok (Op.outcome_eq (World.list_calm calm _ _ _))] at h
  cases hlist : w.cluster.list t.apiResource none options.selector with
  | ok os' =>
    rw [hlist] at h
    cases h
    exact ⟨rfl, .inl rfl⟩
  | error e =>
    simp only [hlist] at h
    split at h
    · rename_i htolerated
      cases h
      exact ⟨rfl, .inr ⟨rfl, e, rfl, htolerated⟩⟩
    · cases h

/-- The objects of a type that can be listed are those of the list; of other types nothing is listed. -/
theorem listObjects_ok {os : List Object} (calm : w.Calm) (h : listObjects options t w = (.ok os, w')) :
    w.SameSettings w' ∧ w'.cluster = w.cluster ∧
      (w.cluster.list t.apiResource none options.selector = .ok os ∨
        os = [] ∧ ∀ k o, ¬options.Listed [t] w.cluster k o) := by
  obtain ⟨rfl, hos⟩ := listObjects_cases calm h
  refine ⟨.called _ w, rfl, hos.imp_right fun ⟨hnil, e, he, _⟩ => ⟨hnil, fun k o hlisted => ?_⟩⟩
  obtain ⟨t', ht', -, hkind, -⟩ := hlisted.type
  cases List.mem_singleton.mp ht'
  have hgranted : w.cluster.listRefusals.lookup t.kind = none := hkind ▸ hlisted.granted
  simp only [Cluster.list, CatalogType.apiResource, ApiResource.ofGvk, CatalogType.gvk, hgranted] at he
  cases he

/-- A pass by the types of a catalog. -/
theorem passTypes_ok : ∀ {ts : List CatalogType} {n : Nat} {w : World}, w.Calm → w.cluster.deleteRefusals = [] →
    passTypes options policy ts n w = (.ok n', w') →
    w.SameSettings w' ∧ ∃ T, options.Passes policy ts T w.cluster w'.cluster
  | [], n, w₀, _, _, h => by
    cases h
    exact ⟨.refl _, _, .nil options policy _⟩
  | t :: ts, n, w, calm, willing, h => by
    rw [passTypes] at h
    match htype : options.acceptsType t with
    | .error c =>
      rw [htype] at h
      cases h
    | .ok false =>
      rw [htype] at h
      obtain ⟨hset, T, hp⟩ := passTypes_ok calm willing h
      refine ⟨hset, T, hp.skip fun k o hlisted => ?_⟩
      obtain ⟨t', ht', -, -, htrue⟩ := hlisted.type
      cases List.mem_singleton.mp ht'
      rw [htype] at htrue
      cases htrue
    | .ok true =>
      rw [htype] at h
      obtain ⟨os, w₁, hlist, h⟩ := Computation.bind_eq_ok.mp h
      obtain ⟨m, w₂, hobjects, h⟩ := Computation.bind_eq_ok.mp h
      obtain ⟨hset₁, hsame, hos⟩ := listObjects_ok calm hlist
      obtain ⟨hset₂, hdec, hs⟩ := passObjects_ok (hset₁.calm calm) (hset₁.cluster.deleteRefusals.trans willing) hobjects
      have hset := hset₁.trans hset₂
      obtain ⟨hset₃, T, hp⟩ := passTypes_ok (hset.calm calm) (hset.cluster.deleteRefusals.trans willing) h
      rw [hsame] at hs
      have hmem (o : Object) (k : Key) : (∃ k₀, options.Listed [t] w.cluster k₀ o ∧ k₀.told o = k) ↔
          o ∈ os ∧ o.metadata.isTerminating = false ∧
            Key.ofResource t.apiResource o.metadata.namespace o.name = k := by
        rcases hos with hos | ⟨rfl, hnone⟩
        · exact listed_iff_mem_list hos htype
        · exact ⟨fun ⟨k₀, h, _⟩ => absurd h (hnone k₀ o), fun ⟨ho, _⟩ => absurd ho List.not_mem_nil⟩
      refine ⟨hset.trans hset₃, _, hp.cons hs (fun k => exists_congr fun o => ?_) fun k o hlisted => ?_⟩
      · rw [← hmem]
        exact ⟨fun ⟨⟨k₀, hlisted, htold⟩, hacc⟩ => ⟨k₀, { hlisted with accepted := hacc }, htold⟩,
          fun ⟨k₀, hdue, htold⟩ => ⟨⟨k₀, hdue.toListed, htold⟩, hdue.accepted⟩⟩
      · exact hdec o ((hmem o _).mp ⟨k, hlisted, rfl⟩).1

end
end Engine
end PlatformOperator
