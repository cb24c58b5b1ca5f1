import PlatformOperator.Action.Deploy
import PlatformOperator.Proofs.Cluster.Calls
import PlatformOperator.Proofs.Collector.Pass

/-! A deployment changes the objects it applies and no others. What it applied is stored under its own key,
    as it was rendered from a resource of the request. -/

namespace PlatformOperator

/-- The key under which a call applies an object. -/
def Call.applied? : Call → Option Key
  | .apply r «namespace» name => some (.ofResource r «namespace» name)
  | _ => none

/-- The keys applied by the calls made between two worlds. -/
def World.applied (w w' : World) : List Key := (w'.calls.drop w.calls.length).filterMap Call.applied?

theorem Key.ofObject_of_gvk {o : Object} {g : Gvk} (h : o.gvk? = some g) :
    Key.ofObject o = ⟨g.group, g.kind, o.metadata.namespace, o.name⟩ := by
  obtain ⟨t, ht, rfl⟩ := Option.map_eq_some_iff.mp h
  rw [ofObject, Object.kind, ht, Gvk.ofApiVersion, Gvk.splitApiVersion]
  dsimp only [Option.map_some, Option.getD_some]
  cases Text.splitOnce? '/' t.apiVersion <;> rfl

/-- An instance that can own objects has a UID, and its reference names its type. -/
theorem Instance.controllerReference?_eq_some {i : Instance} {owner : OwnerReference}
    (h : i.controllerReference? = some owner) :
    owner.apiVersion = i.resource.apiVersion ∧ owner.kind = i.resource.kind ∧ i.metadata.uid = some owner.uid := by
  obtain ⟨name, -, h⟩ := Option.bind_eq_some_iff.mp h
  obtain ⟨uid, huid, h⟩ := Option.bind_eq_some_iff.mp h
  cases h
  exact ⟨rfl, rfl, huid⟩

theorem Instance.controllerReference?_controller {i : Instance} {owner : OwnerReference}
    (h : i.controllerReference? = some owner) : owner.controller = some true := by
  obtain ⟨name, -, h⟩ := Option.bind_eq_some_iff.mp h
  obtain ⟨uid, -, h⟩ := Option.bind_eq_some_iff.mp h
  cases h
  rfl

namespace Deploy

/-! ### The calls of a deployment -/

/-- The manifest is of a served type, and its deployed copy was looked up. -/
structure Finds (r : Request) (m : Object) (w : World) (gvk : Gvk) (resource : ApiResource) (scope : Scope)
    (deployed : Option Object) (w' : World) : Prop where
  type : m.gvk? = some gvk
  looks : ∃ w₁, World.resolve gvk w = (.ok (resource, scope), w₁) ∧
    World.getObject resource (placed scope r.config.applicationsNamespace m).metadata.namespace m.name w₁ =
      (.ok deployed, w')

/-- How a deployment of a manifest goes: the call it ends with, and what it comes to. -/
inductive Course (r : Request) (owner : OwnerReference) (m : Object) (w : World) :
    Except DeployError (Option Object) → World → Prop
  | untyped (type : m.gvk? = none) : Course r owner m w (.error (.missingType m.name)) w
  | unresolved {gvk : Gvk} {e : ApiError} {w' : World} (type : m.gvk? = some gvk)
    (resolve : World.resolve gvk w = (.error e, w')) :
    Course r owner m w (.error (.resolveResource e gvk.kind m.name)) w'
  | unread {gvk : Gvk} {resource : ApiResource} {scope : Scope} {e : ApiError} {w₁ w' : World}
    (type : m.gvk? = some gvk) (resolve : World.resolve gvk w = (.ok (resource, scope), w₁))
    (get : World.getObject resource (placed scope r.config.applicationsNamespace m).metadata.namespace m.name w₁ =
      (.error e, w')) : Course r owner m w (.error (.getResource e gvk.kind m.name)) w'
  | skipped {gvk : Gvk} {resource : ApiResource} {scope : Scope} {deployed : Option Object} {w' : World}
    (finds : Finds r m w gvk resource scope deployed w') (optedOut : deployed.any (·.metadata.isUnmanaged) = true) :
    Course r owner m w (.ok none) w'
  | unapplied {gvk : Gvk} {resource : ApiResource} {scope : Scope} {deployed : Option Object} {e : ApiError}
    {w₁ w' : World} (finds : Finds r m w gvk resource scope deployed w₁)
    (managed : ¬deployed.any (·.metadata.isUnmanaged) = true)
    (apply : World.applyObject resource
      (setController owner (stamp r (placed scope r.config.applicationsNamespace m))) w₁ = (.error e, w')) :
    Course r owner m w (.error (.applyResource e gvk.kind m.name)) w'
  | applied {gvk : Gvk} {resource : ApiResource} {scope : Scope} {deployed : Option Object} {x : Object}
    {w₁ w' : World} (finds : Finds r m w gvk resource scope deployed w₁)
    (managed : ¬deployed.any (·.metadata.isUnmanaged) = true)
    (apply : World.applyObject resource
      (setController owner (stamp r (placed scope r.config.applicationsNamespace m))) w₁ = (.ok x, w')) :
    Course r owner m w (.ok (some x)) w'

theorem deploy_course (r : Request) (owner : OwnerReference) (m : Object) (w : World) :
    ∃ result w', deploy r owner m w = (result, w') ∧ Course r owner m w result w' := by
  rw [deploy]
  cases hgvk : m.gvk? with
  | none => exact ⟨_, _, rfl, .untyped hgvk⟩
  | some gvk =>
    dsimp only
    rcases hresolve : World.resolve gvk w with ⟨e | ⟨resource, scope⟩, w₁⟩
    · exact ⟨_, _, Computation.bind_error (Op.mapError_eq hresolve), .unresolved hgvk hresolve⟩
    rw [Computation.bind_ok (Op.mapError_eq hresolve)]
    dsimp only
    rcases hget : World.getObject resource (placed scope r.config.applicationsNamespace m).metadata.namespace m.name
      w₁ with ⟨e | deployed, w₂⟩
    · exact ⟨_, _, Computation.bind_error (Op.mapError_eq hget), .unread hgvk hresolve hget⟩
    rw [Computation.bind_ok (Op.mapError_eq hget)]
    have finds : Finds r m w gvk resource scope deployed w₂ := ⟨hgvk, w₁, hresolve, hget⟩
    split
    · next optedOut => exact ⟨_, _, rfl, .skipped finds optedOut⟩
    · next managed =>
      rcases happly : World.applyObject resource
        (setController owner (stamp r (placed scope r.config.applicationsNamespace m))) w₂ with ⟨e | x, w₃⟩
      · exact ⟨_, _, Computation.bind_error (Op.mapError_eq happly), .unapplied finds managed happly⟩
      · exact ⟨_, _, Computation.bind_ok (Op.mapError_eq happly), .applied finds managed happly⟩

/-! ### What it changes -/

/-- `o` under `k` is the manifest `m`, put in its place and marked for the request. -/
structure Rendered (r : Request) (owner : OwnerReference) (m : Object) (k : Key) (o : Object) : Prop where
  place : ∃ scope, Key.ofObject (placed scope r.config.applicationsNamespace m) = k
  key : Key.ofObject o = k
  annotations : o.metadata.annotations = (stamp r m).metadata.annotations
  labels : o.metadata.labels = (stamp r m).metadata.labels
  owners : o.metadata.ownerReferences = (setController owner m).metadata.ownerReferences

/-- Between the worlds the keys `made` were applied, each with what was rendered from one of the manifests.
    All other objects are as before. -/
structure Deploys (r : Request) (owner : OwnerReference) (ms : List Object) (made : List Key) (w w' : World) :
    Prop where
  settings : w.SameSettings w'
  calls : ∃ calls, w'.calls = w.calls ++ calls ∧ calls.filterMap Call.applied? = made
  kept : ∀ k, k ∉ made → w'.cluster.object? k = w.cluster.object? k
  applied : ∀ k ∈ made, ∃ m ∈ ms, ∃ o, w'.cluster.object? k = some o ∧ Rendered r owner m k o

section
variable {r r' : Request} {owner : OwnerReference} {m o : Object} {ms ms' : List Object} {made made' : List Key}
  {w w₁ w' : World} {k : Key}

/-- The resources of the request do not matter. -/
theorem rendered_withResources {resources : List Object} :
    Rendered { r with resources := resources } owner m k o ↔ Rendered r owner m k o :=
  ⟨fun h => ⟨h.place, h.key, h.annotations, h.labels, h.owners⟩,
    fun h => ⟨h.place, h.key, h.annotations, h.labels, h.owners⟩⟩

namespace Deploys

theorem refl (r : Request) (owner : OwnerReference) (w : World) : Deploys r owner [] [] w w where
  settings := .refl w
  calls := ⟨[], (List.append_nil _).symm, rfl⟩
  kept _ _ := rfl
  applied _ hk := absurd hk List.not_mem_nil

/-- A call that applies nothing changes nothing. -/
theorem called (r : Request) (owner : OwnerReference) (w : World) (call : Call) (h : call.applied? = none) :
    Deploys r owner [] [] w (w.called call) where
  settings := .called call w
  calls := ⟨[call], rfl, by rw [List.filterMap_cons, h]; rfl⟩
  kept _ _ := rfl
  applied _ hk := absurd hk List.not_mem_nil

theorem trans (h₁ : Deploys r owner ms made w w₁) (h₂ : Deploys r owner ms' made' w₁ w') :
    Deploys r owner (ms ++ ms') (made ++ made') w w' where
  settings := h₁.settings.trans h₂.settings
  calls := by
    obtain ⟨calls₁, hcalls₁, rfl⟩ := h₁.calls
    obtain ⟨calls₂, hcalls₂, rfl⟩ := h₂.calls
    exact ⟨calls₁ ++ calls₂, by rw [hcalls₂, hcalls₁, List.append_assoc], List.filterMap_append⟩
  kept k hk := by
    rw [List.mem_append, not_or] at hk
    rw [h₂.kept k hk.2, h₁.kept k hk.1]
  applied k hk := by
    by_cases hk' : k ∈ made'
    · obtain ⟨m, hm, ho⟩ := h₂.applied k hk'
      exact ⟨m, List.mem_append_right ms hm, ho⟩
    · obtain ⟨m, hm, ho⟩ := h₁.applied k ((List.mem_append.mp hk).resolve_right hk')
      rw [← h₂.kept k hk'] at ho
      exact ⟨m, List.mem_append_left ms' hm, ho⟩

theorem ownKeys (h : Deploys r owner ms made w w') (own : w.cluster.OwnKeys) : w'.cluster.OwnKeys := by
  intro k o ho
  by_cases hk : k ∈ made
  · obtain ⟨m, -, o', ho', hr⟩ := h.applied k hk
    cases ho.symm.trans ho'
    exact hr.key
  · exact own k o ((h.kept k hk).symm.trans ho)

/-- The applied keys can be read off the calls. -/
theorem made_eq (h : Deploys r owner ms made w w') : w.applied w' = made := by
  obtain ⟨calls, hcalls, rfl⟩ := h.calls
  rw [World.applied, hcalls, List.drop_left]

end Deploys

/-- Applying a marked manifest stores what is rendered from it. -/
theorem deploys_apply {resource : ApiResource} {scope : Scope} {g : Gvk} {x : Object} (calm : w.Calm)
    (hgvk : m.gvk? = some g) (hresource : resource.gvk = g)
    (h : World.applyObject resource (setController owner (stamp r (placed scope r.config.applicationsNamespace m))) w =
      (.ok x, w')) :
    Deploys r owner [m] [Key.ofObject (placed scope r.config.applicationsNamespace m)] w w' := by
  generalize hm' : placed scope r.config.applicationsNamespace m = m' at h
  have hgvk' : m'.gvk? = some g := by rw [← hm', ← hgvk]; rfl
  have hplace : Key.ofResource resource m'.metadata.namespace m'.name = Key.ofObject m' := by
    rw [Key.ofObject_of_gvk hgvk', Key.ofResource, ← hresource]
    rfl
  rw [World.applyObject_calm calm] at h
  rcases hr : w.cluster.apply resource (setController owner (stamp r m')) with e | ⟨o, c'⟩ <;> simp only [hr] at h
  · cases h
  obtain ⟨-, rfl⟩ := Prod.mk.inj h
  obtain ⟨hset, hobject, htypes, hname, hnamespace, hannotations, hlabels, howners⟩ := Cluster.apply_ok hr
  have hobject (k : Key) : c'.object? k = if k = Key.ofObject m' then some o else w.cluster.object? k := by
    rw [hobject, ← hplace]
    rfl
  have hkey : Key.ofObject o = Key.ofObject m' := by
    have : o.gvk? = some g := by
      obtain ⟨t, ht, rfl⟩ := Option.map_eq_some_iff.mp hgvk'
      rw [Object.gvk?, htypes]
      show some (Gvk.ofApiVersion (m'.types.getD _).apiVersion (m'.types.getD _).kind) = _
      rw [ht]
      rfl
    rw [Key.ofObject_of_gvk this, Key.ofObject_of_gvk hgvk', hname, hnamespace]
    rfl
  refine ⟨⟨rfl, rfl, rfl, hset⟩, ⟨_, rfl, ?_⟩, fun k hk => ?_, fun k hk => ?_⟩
  · rw [← hplace]
    rfl
  · rw [List.mem_singleton] at hk
    exact (hobject k).trans (if_neg hk)
  · cases List.mem_singleton.mp hk
    refine ⟨m, List.mem_singleton_self m, o, (hobject _).trans (if_pos rfl), ⟨scope, by rw [hm']⟩, hkey, ?_, ?_, ?_⟩
    · rw [hannotations, ← hm']
      rfl
    · rw [hlabels, ← hm']
      rfl
    · rw [howners, ← hm']
      rfl

/-- Looking things up applies nothing. -/
theorem Finds.deploys (owner : OwnerReference) (calm : w.Calm) {g : Gvk} {resource : ApiResource} {scope : Scope} {deployed : Option Object}
    (h : Finds r m w g resource scope deployed w') :
    Deploys r owner [] [] w w' ∧ w.cluster.resolve g = .ok (resource, scope) := by
  obtain ⟨w₁, hresolve, hget⟩ := h.looks
  rw [World.resolve_calm calm] at hresolve
  obtain ⟨hresource, rfl⟩ := Prod.mk.inj hresolve
  have h₁ := Deploys.called r owner w (.resolve g) rfl
  rw [World.getObject_calm (h₁.settings.calm calm)] at hget
  obtain ⟨-, rfl⟩ := Prod.mk.inj hget
  exact ⟨h₁.trans (Deploys.called r owner _ (.get resource _ m.name) rfl), hresource⟩

/-- One manifest is applied, or nothing because its deployed copy was opted out. -/
theorem deploy_ok (calm : w.Calm) {deployed : Option Object} (h : deploy r owner m w = (.ok deployed, w')) :
    ∃ made, Deploys r owner [m] made w w' := by
  obtain ⟨_, _, hdeploy, hcourse⟩ := deploy_course r owner m w
  cases hdeploy.symm.trans h
  cases hcourse with
  | skipped finds =>
    exact ⟨[], { (finds.deploys owner calm).1 with applied := fun k hk => absurd hk List.not_mem_nil }⟩
  | applied finds _ happly =>
    obtain ⟨h₁, hresource⟩ := finds.deploys owner calm
    exact ⟨_, h₁.trans (deploys_apply (h₁.settings.calm calm) finds.type (Cluster.resolve_gvk hresource) happly)⟩

/-- Deploying manifest by manifest. The request changes in its resources at most. -/
theorem deployAll_ok : ∀ {ms done : List Object} {run run' : Run}, run.world.Calm →
    deployAll owner done ms run = (.ok (), run') →
    (∃ made, Deploys run.request owner ms made run.world run'.world) ∧
      ∃ resources, run'.request = { run.request with resources := resources }
  | [], _, run, run', _, h => by
    cases h
    exact ⟨⟨[], .refl _ owner _⟩, run.request.resources, rfl⟩
  | m :: ms, done, run, run', calm, h => by
    rw [deployAll, Computation.bind_ok RunM.request_eq] at h
    obtain ⟨deployed, run₁, hdeploy, h⟩ := Computation.bind_eq_ok.mp h
    obtain ⟨hdeploy, hrequest⟩ := RunM.ofOp_eq_ok.mp hdeploy
    obtain ⟨made₁, h₁⟩ := deploy_ok calm hdeploy
    rw [RunM.modifyRequest, Computation.bind_ok (Computation.modify_eq _)] at h
    obtain ⟨⟨made₂, h₂⟩, resources, hresources⟩ := deployAll_ok (by exact h₁.settings.calm calm) h
    rw [hrequest] at hresources h₂
    refine ⟨⟨made₁ ++ made₂, h₁.trans { h₂ with applied := fun k hk => ?_ }⟩, resources, hresources⟩
    obtain ⟨m', hm', o, ho, hr⟩ := h₂.applied k hk
    exact ⟨m', hm', o, ho, rendered_withResources.mp hr⟩

end
end Deploy

/-- A deployment that succeeds has an owner for what it applies. The request changes in its resources at most. -/
theorem Action.deploy_ok {run run' : Run} (calm : run.world.Calm) (h : deploy.run run = (.ok (), run')) :
    ∃ owner, run.request.subject.controllerReference? = some owner ∧
      Deploy.Deploys run.request owner run.request.resources (run.world.applied run'.world) run.world run'.world ∧
        ∃ resources, run'.request = { run.request with resources := resources } := by
  change (RunM.request >>= _) run = (.ok (), run') at h
  rw [Computation.bind_ok RunM.request_eq] at h
  cases howner : run.request.subject.controllerReference? with
  | none =>
    rw [howner] at h
    cases h
  | some owner =>
    rw [howner] at h
    obtain ⟨⟨made, hdeploys⟩, hrequest⟩ := Deploy.deployAll_ok calm h
    exact ⟨owner, rfl, hdeploys.made_eq ▸ hdeploys, hrequest⟩

end PlatformOperator
