import PlatformOperator.Proofs.Action.Redeployment

/-! Whose the deployed objects are. Whatever owners a manifest names, and whatever fails or arrives while it is
    deployed, the object that is stored for it has the instance as its only controller. -/

namespace PlatformOperator

/-! ### What the cluster gains -/

/-- The arrival stores `o` under `k`. -/
def Arrival.Brings (a : Arrival) (k : Key) (o : Object) : Prop :=
  Key.ofObject a.object = k ∧ ∃ uid, o = a.object.mapMeta fun d => { d with uid }

/-- From `w` to `w'` the types stay, and all that the cluster gains arrived or is as `P` says. -/
structure World.Gains (P : Key → Object → Prop) (w w' : World) : Prop where
  served : w'.cluster.served = w.cluster.served
  arrivals : ∀ a ∈ w'.arrivals, ∃ b ∈ w.arrivals, a.object = b.object
  stored : ∀ k o, w'.cluster.object? k = some o →
    w.cluster.object? k = some o ∨ (∃ a ∈ w.arrivals, a.Brings k o) ∨ P k o

namespace World
variable {α : Type} {P Q : Key → Object → Prop} {w w₁ w' : World} {r : ApiResource} {x y : Object}

namespace Gains

theorem refl (P : Key → Object → Prop) (w : World) : Gains P w w :=
  ⟨rfl, fun a ha => ⟨a, ha, rfl⟩, fun _ _ h => .inl h⟩

theorem mono (hsub : ∀ k o, P k o → Q k o) (h : Gains P w w') : Gains Q w w' :=
  ⟨h.served, h.arrivals, fun k o ho => (h.stored k o ho).imp_right (.imp_right (hsub k o))⟩

theorem trans (h₁ : Gains P w w₁) (h₂ : Gains P w₁ w') : Gains P w w' where
  served := h₂.served.trans h₁.served
  arrivals a ha := by
    obtain ⟨b, hb, hab⟩ := h₂.arrivals a ha
    obtain ⟨b', hb', hbb'⟩ := h₁.arrivals b hb
    exact ⟨b', hb', hab.trans hbb'⟩
  stored k o ho := by
    rcases h₂.stored k o ho with hold | ⟨a, ha, hbrings⟩ | hnew
    · exact h₁.stored k o hold
    · obtain ⟨b, hb, hab⟩ := h₁.arrivals a ha
      exact .inr (.inl ⟨b, hb, by rwa [Arrival.Brings, ← hab]⟩)
    · exact .inr (.inr hnew)

/-- An arrival that is stored is one less to come. -/
theorem insert (a : Arrival) (as : List Arrival) (w : World) :
    Gains P { w with arrivals := a :: as } { w with arrivals := as, cluster := w.cluster.insert a.object } := by
  have hwithUid : ∃ uid c, w.cluster.withUid a.object = (a.object.mapMeta fun d => { d with uid }, c) ∧
      c.served = w.cluster.served ∧ c.objects = w.cluster.objects := by
    rw [Cluster.withUid]
    split
    · exact ⟨a.object.metadata.uid, _, rfl, rfl, rfl⟩
    · exact ⟨_, _, rfl, rfl, rfl⟩
  obtain ⟨uid, c, huid, hserved, hobjects⟩ := hwithUid
  have hinsert : w.cluster.insert a.object =
      c.put (Key.ofObject a.object) (a.object.mapMeta fun d => { d with uid }) := by
    rw [Cluster.insert, huid]
    rfl
  refine ⟨(congrArg Cluster.served hinsert).trans hserved, fun b hb => ⟨b, List.mem_cons_of_mem _ hb, rfl⟩,
    fun k o ho => ?_⟩
  dsimp only at ho
  rw [hinsert, Cluster.object?_put] at ho
  split at ho
  · next hk =>
    cases ho
    exact .inr (.inl ⟨a, List.mem_cons_self, hk.symm, uid, rfl⟩)
  · rw [Cluster.object?, hobjects] at ho
    exact .inl ho

theorem wait {a a' : Arrival} {as as' : List Arrival} {c : Cluster} (hsame : a'.object = a.object)
    (h : Gains P { w with arrivals := as } { w with arrivals := as', cluster := c }) :
    Gains P { w with arrivals := a :: as } { w with arrivals := a' :: as', cluster := c } where
  served := h.served
  arrivals b hb := by
    rcases List.mem_cons.mp hb with rfl | hb
    · exact ⟨a, List.mem_cons_self, hsame⟩
    · obtain ⟨b', hb', heq⟩ := h.arrivals b hb
      exact ⟨b', List.mem_cons_of_mem _ hb', heq⟩
  stored k o ho := by
    refine (h.stored k o ho).imp_right (.imp_left ?_)
    rintro ⟨b, hb, hbrings⟩
    exact ⟨b, List.mem_cons_of_mem _ hb, hbrings⟩

theorem receive (call : Call) : ∀ (as : List Arrival) (w : World), Gains P { w with arrivals := as }
    { w with arrivals := (World.receive call as w.cluster).1, cluster := (World.receive call as w.cluster).2 }
  | [], w => .refl P _
  | a :: as, w => by
    rw [World.receive]
    split
    · split
      · -- It arrives now, and those behind it find it there.
        exact (insert a as w).trans (receive call as { w with cluster := w.cluster.insert a.object })
      · exact (receive call as w).wait rfl
    · exact (receive call as w).wait rfl

theorem begin (call : Call) (w : World) : Gains P w (World.begin call w).2 :=
  have h := receive (P := P) call w.arrivals w
  ⟨h.served, h.arrivals, h.stored⟩

theorem ask {call : Call} {f : Cluster → Except ApiError α} {result : Except ApiError α}
    (h : (World.begin call >>= fun _ => World.ask f) w = (result, w')) : Gains P w w' := by
  have hafter : ((World.begin call >>= fun _ => World.ask f) w).2 = (World.begin call w).2 :=
    Computation.bind_snd fun _ _ => rfl
  rw [h] at hafter
  obtain rfl : w' = (World.begin call w).2 := hafter
  exact begin call w

end Gains

/-- What a type is resolved to is served already before objects arrive. -/
theorem resolve_ok {g : Gvk} {found : ApiResource × Scope} (h : resolve g w = (.ok found, w')) :
    w.cluster.resolve g = .ok found := by
  obtain ⟨_, w₁, hbegin, hask⟩ := Computation.bind_eq_ok.mp h
  have hgains := Gains.begin (P := fun _ _ => True) (.resolve g) w
  rw [hbegin] at hgains
  have hfound : w₁.cluster.resolve g = .ok found := congrArg Prod.fst hask
  rwa [Cluster.resolve, hgains.served, ← Cluster.resolve] at hfound

/-- `o` under `k` is what a call stores for `x`: its place and its owners are those of `x`. -/
structure Applies (r : ApiResource) (x : Object) (k : Key) (o : Object) : Prop where
  key : o.keyIn r = k
  place : o.metadata.namespace = x.metadata.namespace
  owners : o.metadata.ownerReferences = x.metadata.ownerReferences

theorem applyObject_gains {result : Except ApiError Object} (h : applyObject r x w = (result, w')) :
    Gains (Applies r x) w w' ∧ ∀ y, result = .ok y → ∃ k o, w'.cluster.object? k = some o ∧ Applies r x k o ∧
      ∃ uid, y = o.mapMeta fun d => { d with uid } := by
  rw [applyObject] at h
  have hgains := Gains.begin (P := Applies r x) (.apply r x.metadata.namespace x.name) w
  rcases hbegin : begin (.apply r x.metadata.namespace x.name) w with ⟨e | _, w₁⟩ <;> rw [hbegin] at hgains
  · rw [Computation.bind_error hbegin] at h
    cases h
    exact ⟨hgains, fun y hy => by cases hy⟩
  rw [Computation.bind_ok hbegin] at h
  rcases change_cases (fun _ c => c.apply r x) w₁ with ⟨e, hchange⟩ | ⟨o, c, happly, hchange⟩
  · rw [Computation.bind_error hchange] at h
    cases h
    exact ⟨⟨hgains.served, hgains.arrivals, hgains.stored⟩, fun y hy => by cases hy⟩
  rw [Computation.bind_ok hchange] at h
  cases h
  obtain ⟨hset, hobject, -, hname, hplace, -, -, howners⟩ := Cluster.apply_ok happly
  have hkey : o.keyIn r = x.keyIn r := by rw [Object.keyIn, hplace, hname, Object.keyIn]
  have happlies : Applies r x (x.keyIn r) o := ⟨hkey, hplace, howners⟩
  refine ⟨hgains.trans ⟨hset.served, fun a ha => ⟨a, ha, rfl⟩, fun k o' ho' => ?_⟩, fun y hy => ?_⟩
  · replace ho' := (hobject k).symm.trans ho'
    split at ho'
    · next hk =>
      cases ho'
      exact .inr (.inr (hk ▸ happlies))
    · exact .inl ho'
  · cases hy
    exact ⟨x.keyIn r, o, (hobject _).trans (if_pos rfl), happlies, returned_eq _ r o⟩

end World

/-! ### The owners of what is deployed -/

namespace Deploy

/-- `o` under `k` is what the manifest `m` is stored as in a cluster that serves what `c` serves: `owner`, which stands
    for the instance `i`, is its only controller. -/
structure Controlled (i : Instance) (owner : OwnerReference) (c : Cluster) (m : Object) (k : Key) (o : Object) :
    Prop where
  reference : i.controllerReference? = some owner
  controller : o.metadata.owners.filter (·.controller == some true) = [owner]
  last : o.metadata.owners.getLast? = some owner
  uid : o.metadata.owners.filter (·.uid == owner.uid) = [owner]
  /-- Of the owners the manifest names, those that neither control it nor are the instance stay, in their order. -/
  others : o.metadata.owners.dropLast =
    m.metadata.owners.filter fun ref => !(ref.controller == some true || ref.uid == owner.uid)
  /-- The collector finds it owned, as long as slashes tell the group from the version. -/
  owned : '/' ∉ i.resource.group.toList → (i.resource.group = "" → '/' ∉ i.resource.version.toList) →
    GarbageCollector.isOwnedByType o i.resource.group i.resource.kind = true
  place : ∃ gvk resource scope, m.gvk? = some gvk ∧ c.resolve gvk = .ok (resource, scope) ∧ o.keyIn resource = k ∧
    (o.metadata.namespace = none ↔ scope = .cluster)

section
variable {i : Instance} {owner : OwnerReference} {r : Request} {m o : Object} {k : Key} {c c' : Cluster} {w w' : World}
  {refs : List OwnerReference}

theorem filter_controller_append (howner : owner.controller = some true) :
    ((refs.filter fun ref => ref.uid != owner.uid && ref.controller != some true) ++ [owner]).filter
      (·.controller == some true) = [owner] := by
  rw [List.filter_append, List.filter_filter, List.filter_eq_nil_iff.mpr, List.nil_append]
  · simp [howner]
  · intro ref _
    cases hcontroller : ref.controller == some true <;> simp [bne, hcontroller]

theorem filter_uid_append :
    ((refs.filter fun ref => ref.uid != owner.uid && ref.controller != some true) ++ [owner]).filter
      (·.uid == owner.uid) = [owner] := by
  rw [List.filter_append, List.filter_filter, List.filter_eq_nil_iff.mpr, List.nil_append]
  · simp
  · intro ref _
    cases huid : ref.uid == owner.uid <;> simp [bne, huid]

theorem controlled_of_applies {gvk : Gvk} {resource : ApiResource} {scope : Scope} {fallback : String}
    (howner : i.controllerReference? = some owner) (hgvk : m.gvk? = some gvk)
    (hresolve : c.resolve gvk = .ok (resource, scope))
    (h : World.Applies resource (setController owner (stamp r (placed scope fallback m))) k o) :
    Controlled i owner c m k o := by
  have howners : o.metadata.owners =
      (m.metadata.owners.filter fun ref => ref.uid != owner.uid && ref.controller != some true) ++ [owner] := by
    rw [ObjectMeta.owners, h.owners]
    rfl
  have hcontroller : owner.controller = some true := Instance.controllerReference?_controller howner
  refine ⟨howner, ?_, ?_, ?_, ?_, GarbageCollector.isOwnedByType_of_mem howner ?_, gvk, resource, scope, hgvk, hresolve,
    h.key, ?_⟩
  · rw [howners, filter_controller_append hcontroller]
  · rw [howners, List.getLast?_concat]
  · rw [howners, filter_uid_append]
  · rw [howners, List.dropLast_concat]
    refine congrArg (List.filter · m.metadata.owners) (funext fun ref => ?_)
    rw [Bool.not_or, Bool.and_comm]
    rfl
  · rw [howners]
    exact List.mem_append_right _ (List.mem_singleton_self owner)
  · rw [h.place]
    cases scope with
    | namespaced => exact ⟨fun hnone => (by cases hnone), fun hscope => (by cases hscope)⟩
    | cluster => exact ⟨fun _ => rfl, fun _ => rfl⟩

theorem Controlled.congr (h : c'.served = c.served) (hcontrolled : Controlled i owner c' m k o) :
    Controlled i owner c m k o := by
  obtain ⟨gvk, resource, scope, hgvk, hresolve, hkey, hplace⟩ := hcontrolled.place
  rw [Cluster.resolve, h, ← Cluster.resolve] at hresolve
  exact { hcontrolled with place := ⟨gvk, resource, scope, hgvk, hresolve, hkey, hplace⟩ }

theorem Finds.gains {P : Key → Object → Prop} {gvk : Gvk} {resource : ApiResource} {scope : Scope}
    {deployed : Option Object} (h : Finds r m w gvk resource scope deployed w') :
    World.Gains P w w' ∧ w.cluster.resolve gvk = .ok (resource, scope) := by
  obtain ⟨w₁, hresolve, hget⟩ := h.looks
  exact ⟨(World.Gains.ask hresolve).trans (.ask hget), World.resolve_ok hresolve⟩

/-- Whatever fails or arrives, the cluster gains nothing from the deployment of `m` but what is controlled, and the
    result, if there is one, is what the cluster holds. -/
theorem deploy_gains (howner : r.subject.controllerReference? = some owner) {result : Except DeployError (Option Object)}
    (h : deploy r owner m w = (result, w')) :
    World.Gains (Controlled r.subject owner w.cluster m) w w' ∧ ∀ x, result = .ok (some x) →
      ∃ k o uid, w'.cluster.object? k = some o ∧ Controlled r.subject owner w.cluster m k o ∧
        x = o.mapMeta fun d => { d with uid } := by
  obtain ⟨_, _, hdeploy, hcourse⟩ := deploy_course r owner m w
  cases hdeploy.symm.trans h
  cases hcourse with
  | untyped => exact ⟨.refl _ w, fun x hx => by cases hx⟩
  | unresolved _ hresolve => exact ⟨.ask hresolve, fun x hx => by cases hx⟩
  | unread _ hresolve hget => exact ⟨(World.Gains.ask hresolve).trans (.ask hget), fun x hx => by cases hx⟩
  | skipped finds => exact ⟨finds.gains.1, fun x hx => by cases hx⟩
  | unapplied finds _ happly =>
    obtain ⟨hgains, hresource⟩ := finds.gains
    have happlied := (World.applyObject_gains happly).1.mono fun _ _ => controlled_of_applies howner finds.type hresource
    exact ⟨hgains.trans happlied, fun x hx => by cases hx⟩
  | applied finds _ happly =>
    obtain ⟨hgains, hresource⟩ := finds.gains
    obtain ⟨happlied, hresult⟩ := World.applyObject_gains happly
    refine ⟨hgains.trans (happlied.mono fun _ _ => controlled_of_applies howner finds.type hresource), fun x hx => ?_⟩
    cases hx
    obtain ⟨k, o, ho, happlies, uid, huid⟩ := hresult _ rfl
    exact ⟨k, o, uid, ho, controlled_of_applies howner finds.type hresource happlies, huid⟩

/-- What becomes of a manifest in the request: it stays, or is replaced by what is stored for it. -/
def Made (i : Instance) (c : Cluster) (m x : Object) : Prop :=
  x = m ∨ ∃ owner k o uid, Controlled i owner c m k o ∧ x = o.mapMeta fun d => { d with uid }

/-- Deploying manifest by manifest: `done` is what became of the manifests `ms`, and `os` are those to come. -/
theorem deployAll_gains (howner : i.controllerReference? = some owner) : ∀ {os ms done : List Object} {run : Run},
    run.request.subject = i → run.request.resources = done ++ os → List.Forall₂ (Made i c) ms done →
    run.world.cluster.served = c.served →
      World.Gains (fun k o => ∃ m ∈ os, Controlled i owner c m k o) run.world (deployAll owner done os run).2.world ∧
        List.Forall₂ (Made i c) (ms ++ os) (deployAll owner done os run).2.request.resources
  | [], ms, done, run, _, hresources, hdone, _ => by
    refine ⟨.refl _ _, ?_⟩
    rw [List.append_nil]
    show List.Forall₂ _ ms run.request.resources
    rwa [hresources, List.append_nil]
  | m :: os, ms, done, run, hsubject, hresources, hdone, hserved => by
    rw [deployAll, Computation.bind_ok RunM.request_eq]
    rcases hdeploy : deploy run.request owner m run.world with ⟨result, w₁⟩
    obtain ⟨hgains, hresult⟩ := deploy_gains (hsubject ▸ howner) hdeploy
    rw [hsubject] at hgains hresult
    -- What arrived meanwhile does not change the types, so the first cluster tells where this manifest goes.
    replace hgains := hgains.mono fun k o h => (⟨m, List.mem_cons_self, h.congr hserved⟩ :
      ∃ m' ∈ m :: os, Controlled i owner c m' k o)
    rcases result with e | deployed
    · rw [Computation.bind_error (RunM.ofOp_eq hdeploy)]
      refine ⟨hgains, ?_⟩
      show List.Forall₂ _ _ run.request.resources
      rw [hresources]
      exact List.rel_append hdone (List.forall₂_same.mpr fun x _ => .inl rfl)
    · rw [Computation.bind_ok (RunM.ofOp_eq hdeploy), RunM.modifyRequest,
        Computation.bind_ok (Computation.modify_eq _)]
      have hmade : Made i c m (deployed.getD m) := by
        cases deployed with
        | none => exact .inl rfl
        | some x =>
          obtain ⟨k, o, uid, -, hcontrolled, hx⟩ := hresult x rfl
          exact .inr ⟨owner, k, o, uid, hcontrolled.congr hserved, hx⟩
      have hdone₁ : List.Forall₂ (Made i c) (ms ++ [m]) (done ++ [deployed.getD m]) :=
        List.rel_append hdone (.cons hmade .nil)
      let run₁ : Run := ⟨w₁, { run.request with resources := done ++ [deployed.getD m] ++ os }⟩
      have hsubject₁ : run₁.request.subject = i := hsubject
      have hserved₁ : run₁.world.cluster.served = c.served := hgains.served.trans hserved
      obtain ⟨hgains₁, hresources₁⟩ := deployAll_gains howner hsubject₁ rfl hdone₁ hserved₁
      rw [List.append_assoc] at hresources₁
      refine ⟨hgains.trans (hgains₁.mono fun k o => ?_), hresources₁⟩
      rintro ⟨m', hm', hcontrolled⟩
      exact ⟨m', List.mem_cons_of_mem m hm', hcontrolled⟩

end
end Deploy

namespace Action
open Deploy

/-- Whatever fails or arrives: what is stored for a manifest has the instance as its only controller, and something is
    stored for it if nothing interferes and its deployed copy was not opted out. After a whole deployment all that the
    cluster gained is controlled so, unless it arrived, and the request has each resource as it was or as it was stored. -/
theorem deploy_controls (run : Run) :
    let i := run.request.subject
    let c := run.world.cluster
    let run' := (deploy.run run).2
    (∀ owner m x w', i.controllerReference? = some owner →
      Deploy.deploy run.request owner m run.world = (.ok (some x), w') → ∃ k o uid, w'.cluster.object? k = some o ∧
        Controlled i owner c m k o ∧ x = o.mapMeta fun d => { d with uid }) ∧
    (∀ owner m, run.world.Calm → Ready c m →
      ∃ made w', Deploy.deploy run.request owner m run.world = (.ok made, w') ∧ (made = none →
        ∃ k x, target? run.request owner c m = some (k, x) ∧ (c.object? k).any (·.metadata.isUnmanaged) = true)) ∧
    (∀ k o, run'.world.cluster.object? k = some o → c.object? k = some o ∨
      (∃ a ∈ run.world.arrivals, a.Brings k o) ∨ ∃ owner, ∃ m ∈ run.request.resources, Controlled i owner c m k o) ∧
    List.Forall₂ (Made i c) run.request.resources run'.request.resources := by
  intro i c run'
  refine ⟨fun owner m x w' howner hdeploy => ?_, fun owner m calm hready => ?_, ?_⟩
  · exact (deploy_gains howner hdeploy).2 x rfl
  · obtain ⟨made, w', hdeploy, -, hskipped⟩ := deploy_calm (r := run.request) calm owner hready
    exact ⟨made, w', hdeploy, hskipped⟩
  · cases howner : run.request.subject.controllerReference? with
    | none =>
      have hsame : run' = run := congrArg Prod.snd (deploy_of_no_owner howner run.world)
      rw [hsame]
      exact ⟨fun _ _ ho => .inl ho, List.forall₂_same.mpr fun x _ => .inl rfl⟩
    | some owner =>
      have hrun : run' = (deployAll owner [] run.request.resources run).2 :=
        congrArg Prod.snd (deploy_of_owner howner run.world)
      rw [hrun]
      obtain ⟨hgains, hresources⟩ := @deployAll_gains i owner c howner run.request.resources [] [] run rfl rfl .nil rfl
      exact ⟨fun k o ho => (hgains.stored k o ho).imp_right (.imp_right fun h => ⟨owner, h⟩), hresources⟩

end Action

/-! ### A map of many owners -/

namespace Sample

/-- A map that names two controllers, two nodes, and the dashboard of an earlier time. -/
def disputed : Object :=
  (configMap "settings").mapMeta fun m => { m with
    ownerReferences := some [⟨"apps/v1", "Deployment", "web", "web", some true, none⟩, ⟨"v1", "Node", "a", "a", none, none⟩,
      ⟨"components.platform.opendatahub.io/v1alpha1", "Dashboard", "d", "d", some false, none⟩,
      ⟨"apps/v1", "Deployment", "api", "api", some true, none⟩, ⟨"v1", "Node", "b", "b", some false, none⟩] }

end Sample

open Sample Deploy in
/-- The dashboard controls the map, behind both nodes. -/
theorem Action.deploy_controls_sample :
    let run : Run := ⟨{ cluster := cluster [] }, request (dashboard "d" 1) [disputed]⟩
    ∃ owner o, (deploy.run run).2.world.cluster.object? (configMapKey "settings") = some o ∧
      Controlled run.request.subject owner run.world.cluster disputed (configMapKey "settings") o ∧
        o.metadata.owners.map (·.name) = ["a", "b", "d"] := by
  intro run
  have hnames : ((deploy.run run).2.world.cluster.object? (configMapKey "settings")).map
      (·.metadata.owners.map (·.name)) = some ["a", "b", "d"] := by decide +kernel
  obtain ⟨o, ho, hnames⟩ := Option.map_eq_some_iff.mp hnames
  rcases (deploy_controls run).2.2.1 _ o ho with hold | ⟨a, ha, -⟩ | ⟨owner, m, hm, hcontrolled⟩
  · have hnone : run.world.cluster.object? (configMapKey "settings") = none := by decide +kernel
    cases hnone.symm.trans hold
  · cases ha
  · cases List.mem_singleton.mp hm
    exact ⟨owner, o, ho, hcontrolled, hnames⟩

end PlatformOperator
