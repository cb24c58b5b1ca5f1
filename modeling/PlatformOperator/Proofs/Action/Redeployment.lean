import PlatformOperator.Proofs.Action.Rendered
import PlatformOperator.Proofs.Cluster.Replacing
import PlatformOperator.Proofs.Dict
import PlatformOperator.Proofs.World.Quiet

/-! Deploying again. What a deployment applies is fixed by its manifests and its request, so a deployment that was
    broken off may be repeated from its start, and one that ended well changes nothing when it is repeated, be it with
    the manifests or with what the cluster made of them. -/

namespace PlatformOperator

theorem RunM.ofOp_eq {ε α : Type} {f : ε → ActionError} {x : Op ε α} {run : Run} {result : Except ε α} {w : World}
    (h : x run.world = (result, w)) : ofOp f x run = (result.mapError f, { run with world := w }) := by
  show ((x run.world).1.mapError f, { run with world := (x run.world).2 }) = _
  rw [h]

/-! ### What a manifest is applied as -/

namespace Deploy

/-- A manifest as it is applied to a type. -/
def applied (r : Request) (owner : OwnerReference) (resource : ApiResource) (scope : Scope) (m : Object) : Object :=
  let o := setController owner (stamp r (placed scope r.config.applicationsNamespace m))
  { o with types := some (o.types.getD ⟨resource.apiVersion, resource.kind⟩) }

/-- Where a manifest is applied, and as what, if its type is served. -/
def target? (r : Request) (owner : OwnerReference) (c : Cluster) (m : Object) : Option (Key × Object) :=
  match m.gvk? with
  | none => none
  | some gvk =>
    match c.resolve gvk with
    | .error _ => none
    | .ok (resource, scope) =>
      let x := applied r owner resource scope m
      some (x.keyIn resource, x)

section
variable {r : Request} {owner : OwnerReference} {resource : ApiResource} {scope : Scope} {m s : Object} {c c' : Cluster}

theorem placed_again {fallback : String}
    (h : s.metadata.namespace = (placed scope fallback m).metadata.namespace) : placed scope fallback s = s := by
  have hsame : (placed scope fallback s).metadata.namespace = s.metadata.namespace := by
    rw [h]
    cases scope with
    | namespaced =>
      show some (s.metadata.namespace.getD fallback) = _
      rw [h]
      rfl
    | cluster => rfl
  have hrest : placed scope fallback s =
      s.mapMeta fun d => { d with «namespace» := (placed scope fallback s).metadata.namespace } := rfl
  rw [hrest, hsame]
  rfl

theorem stamp_again (hannotations : s.metadata.annotations = (stamp r m).metadata.annotations)
    (hlabels : s.metadata.labels = (stamp r m).metadata.labels) : stamp r s = s := by
  have hannotations' : (stamp r s).metadata.annotations = s.metadata.annotations := by
    show some (List.foldl _ _ _) = _
    rw [hannotations]
    exact congrArg some (Dict.foldl_insert_again (nodup_marks r) _)
  have hlabels' : (stamp r s).metadata.labels = s.metadata.labels := by
    have hlabel : s.metadata.label? Marks.partOf = (stamp r m).metadata.label? Marks.partOf := by
      rw [ObjectMeta.label?, hlabels]
      rfl
    exact if_pos (by rw [hlabel, label?_stamp_partOf]; rfl)
  have hrest : stamp r s = s.mapMeta fun d => { d with
      annotations := (stamp r s).metadata.annotations
      labels := (stamp r s).metadata.labels } := rfl
  rw [hrest, hannotations', hlabels']
  rfl

theorem setController_again (h : s.metadata.ownerReferences = (setController owner m).metadata.ownerReferences) :
    setController owner s = s := by
  have hsame : (setController owner s).metadata.ownerReferences = s.metadata.ownerReferences := by
    have howners : s.metadata.owners =
        (m.metadata.owners.filter fun r => r.uid != owner.uid && r.controller != some true) ++ [owner] := by
      rw [ObjectMeta.owners, h]
      rfl
    show some ((s.metadata.owners.filter _) ++ [owner]) = _
    rw [h, howners, List.filter_append, List.filter_filter]
    simp [setController, Object.mapMeta]
  have hrest : setController owner s = s.mapMeta fun d => { d with
      ownerReferences := (setController owner s).metadata.ownerReferences } := rfl
  rw [hrest, hsame]
  rfl

/-- What the cluster made of a manifest is applied as it is, whether or not it still has its UID. -/
theorem applied_again (hs : Cluster.replacing s (applied r owner resource scope m) = s) (uid : Option String) :
    let s' := s.mapMeta fun d => { d with uid }
    applied r owner resource scope s' = s' := by
  intro s'
  have hplaced : placed scope r.config.applicationsNamespace s' = s' :=
    placed_again (congrArg (·.metadata.namespace) hs).symm
  have hstamp : stamp r s' = s' :=
    stamp_again (congrArg (·.metadata.annotations) hs).symm (congrArg (·.metadata.labels) hs).symm
  have hcontroller : setController owner s' = s' :=
    setController_again (congrArg (·.metadata.ownerReferences) hs).symm
  have htypes : s'.types = (applied r owner resource scope m).types := (congrArg Object.types hs).symm
  rw [applied, hplaced, hstamp, hcontroller, htypes]
  show { s' with types := (applied r owner resource scope m).types } = s'
  rw [← htypes]

theorem target?_eq_some_iff {k : Key} {x : Object} :
    target? r owner c m = some (k, x) ↔ ∃ gvk resource scope, m.gvk? = some gvk ∧
      c.resolve gvk = .ok (resource, scope) ∧ applied r owner resource scope m = x ∧ x.keyIn resource = k := by
  rw [target?]
  cases hgvk : m.gvk? with
  | none => simp
  | some gvk =>
    cases hresolve : c.resolve gvk with
    | error e => simp [hresolve]
    | ok found =>
      obtain ⟨resource, scope⟩ := found
      simp only [hresolve, Option.some.injEq, Prod.mk.injEq]
      constructor
      · rintro ⟨rfl, rfl⟩
        exact ⟨gvk, resource, scope, rfl, hresolve, rfl, rfl⟩
      · rintro ⟨_, resource', scope', rfl, hresolve', rfl, rfl⟩
        cases hresolve.symm.trans hresolve'
        exact ⟨rfl, rfl⟩

/-- It is applied in the same place. -/
theorem target?_again {k : Key} {x : Object} (h : target? r owner c m = some (k, x)) (hs : Cluster.replacing s x = s)
    (uid : Option String) :
    let s' := s.mapMeta fun d => { d with uid }
    target? r owner c s' = some (k, s') := by
  intro s'
  obtain ⟨gvk, resource, scope, hgvk, hresolve, rfl, rfl⟩ := target?_eq_some_iff.mp h
  have hgvk' : s'.gvk? = some gvk := by
    obtain ⟨t, ht, -⟩ := Option.map_eq_some_iff.mp hgvk
    have htypes : s'.types = some (m.types.getD ⟨resource.apiVersion, resource.kind⟩) :=
      (congrArg Object.types hs).symm
    rw [← hgvk, Object.gvk?, htypes, Object.gvk?, ht]
    rfl
  have hkey : s'.keyIn resource = (applied r owner resource scope m).keyIn resource :=
    (congrArg (·.keyIn resource) hs).symm
  exact target?_eq_some_iff.mpr ⟨gvk, resource, scope, hgvk', hresolve, applied_again hs uid, hkey⟩

/-- The manifest has a name, and a type that is served. -/
def Ready (c : Cluster) (m : Object) : Prop :=
  m.metadata.name.isSome ∧ ∃ gvk found, m.gvk? = some gvk ∧ c.resolve gvk = .ok found

theorem ready_congr (h : c.SameSettings c') : Ready c' m ↔ Ready c m := by
  simp only [Ready, Cluster.resolve, h.served]

theorem ready_again {k : Key} {x : Object} (hready : Ready c m) (h : target? r owner c m = some (k, x))
    (hs : Cluster.replacing s x = s) (uid : Option String) : Ready c (s.mapMeta fun d => { d with uid }) := by
  obtain ⟨gvk, resource, scope, hgvk, hresolve, -, -⟩ := target?_eq_some_iff.mp (target?_again h hs uid)
  obtain ⟨_, _, _, -, -, hx, -⟩ := target?_eq_some_iff.mp h
  rw [← hx] at hs
  have hname : s.metadata.name = m.metadata.name := (congrArg (·.metadata.name) hs).symm
  exact ⟨hname ▸ hready.1, gvk, _, hgvk, hresolve⟩

/-- What the deployment of a manifest comes to where calls may fail: it changes nothing, or the manifest is settled in
    its place, and the result is what the cluster made of it. -/
inductive Outcome (r : Request) (owner : OwnerReference) (m : Object) (c : Cluster) :
    Except DeployError (Option Object) × World → Prop where
  | failed (e : DeployError) {w : World} (quiet : w.Quiet) (same : w.cluster = c) : Outcome r owner m c (.error e, w)
  | settled (made : Option Object) {w : World} {k : Key} {x : Object} (quiet : w.Quiet)
    (target : target? r owner c m = some (k, x)) (cluster : w.cluster = c.settle (k, x))
    (held : ∀ o, made = some o → ∃ s uid, (c.settle (k, x)).object? k = some s ∧ Cluster.replacing s x = s ∧
      o = s.mapMeta fun d => { d with uid }) : Outcome r owner m c (.ok made, w)

/-- Where nothing arrives, looking things up changes nothing, and tells where the manifest goes. -/
theorem Finds.target {w w' : World} (quiet : w.Quiet) {gvk : Gvk} {deployed : Option Object}
    (h : Finds r m w gvk resource scope deployed w') (owner : OwnerReference) :
    let x := applied r owner resource scope m
    w'.Within (· = w.cluster) ∧ target? r owner w.cluster m = some (x.keyIn resource, x) ∧
      deployed = w.cluster.object? (x.keyIn resource) := by
  intro x
  obtain ⟨w₁, hresolve, hget⟩ := h.looks
  have within₁ : w₁.Within (· = w.cluster) := World.resolve_preserves.within ⟨quiet, rfl⟩ hresolve
  have hresource : w.cluster.resolve gvk = .ok (resource, scope) := by
    rcases World.resolve_quiet quiet gvk with ⟨e, hfailed⟩ | hserved
    · cases hfailed.symm.trans hresolve
    · exact congrArg Prod.fst (hserved.symm.trans hresolve)
  have hdeployed : deployed = w₁.cluster.object? (x.keyIn resource) := by
    rcases World.getObject_quiet within₁.quiet resource
      (placed scope r.config.applicationsNamespace m).metadata.namespace m.name with ⟨e, hfailed⟩ | hread
    · cases hfailed.symm.trans hget
    · exact (Except.ok.inj (congrArg Prod.fst (hread.symm.trans hget))).symm
  rw [within₁.cluster] at hdeployed
  exact ⟨World.getObject_preserves.within within₁ hget,
    target?_eq_some_iff.mpr ⟨gvk, resource, scope, h.type, hresource, rfl, rfl⟩, hdeployed⟩

theorem deploy_outcome {w : World} (quiet : w.Quiet) (r : Request) (owner : OwnerReference) (m : Object) :
    Outcome r owner m w.cluster (deploy r owner m w) := by
  obtain ⟨result, w', hdeploy, hcourse⟩ := deploy_course r owner m w
  rw [hdeploy]
  have within : w.Within (· = w.cluster) := ⟨quiet, rfl⟩
  cases hcourse with
  | untyped => exact .failed _ quiet rfl
  | unresolved _ hresolve =>
    have within' := World.resolve_preserves.within within hresolve
    exact .failed _ within'.quiet within'.cluster
  | unread _ hresolve hget =>
    have within' := World.getObject_preserves.within (World.resolve_preserves.within within hresolve) hget
    exact .failed _ within'.quiet within'.cluster
  | skipped finds optedOut =>
    obtain ⟨within', htarget, rfl⟩ := finds.target quiet owner
    obtain ⟨old, hold, hunmanaged⟩ := (Option.any_eq_true _ _).mp optedOut
    refine .settled none within'.quiet htarget ?_ fun _ h => by cases h
    rw [within'.cluster, Cluster.settle_of_unmanaged hold hunmanaged]
  | unapplied finds managed happly =>
    obtain ⟨within', -⟩ := finds.target quiet owner
    rcases World.applyObject_quiet within'.quiet _ _ with ⟨e, _, hcall⟩ | ⟨o, c', -, hcall⟩
    · cases hcall.symm.trans happly
      exact .failed _ within'.quiet within'.cluster
    · cases hcall.symm.trans happly
  | @applied gvk resource scope deployed o' w₁ w' finds managed happly =>
    obtain ⟨within', htarget, rfl⟩ := finds.target quiet owner
    have hmanaged : ∀ old, w.cluster.object? ((applied r owner resource scope m).keyIn resource) = some old →
        old.metadata.isUnmanaged = false := by
      intro old hold
      rw [hold] at managed
      simpa using managed
    rcases World.applyObject_quiet within'.quiet _ _ with ⟨e, _, hcall⟩ | ⟨o, c', happlied, hcall⟩
    · cases hcall.symm.trans happly
    · cases hcall.symm.trans happly
      rw [within'.cluster] at happlied
      obtain ⟨hsettle, hobject, hagain⟩ := Cluster.settle_of_apply happlied hmanaged
      obtain ⟨uid, huid⟩ := World.returned_eq w₁.hiddenUids resource o
      refine .settled _ within'.quiet htarget hsettle fun o' ho' => ?_
      cases ho'
      exact ⟨o, uid, hobject, hagain, huid⟩

/-- What the deployment of a manifest made of it may be deployed in its stead. -/
theorem target?_repeats {k : Key} {x : Object} {made : Option Object} (hready : Ready c m)
    (target : target? r owner c m = some (k, x))
    (held : ∀ o, made = some o → ∃ s uid, (c.settle (k, x)).object? k = some s ∧ Cluster.replacing s x = s ∧
      o = s.mapMeta fun d => { d with uid }) :
    ∃ x', target? r owner c (made.getD m) = some (k, x') ∧ Ready c (made.getD m) ∧ c.Repeats k x x' := by
  cases made with
  | none => exact ⟨x, target, hready, .inl rfl⟩
  | some o =>
    obtain ⟨s, uid, hobject, hs, rfl⟩ := held o rfl
    have hrepeats : c.Repeats k x (s.mapMeta fun d => { d with uid }) := .inr ⟨s, hobject, rfl, fun _ => rfl⟩
    exact ⟨_, target?_again target hs uid, ready_again hready target hs uid, hrepeats⟩

/-- Where and as what the manifests are applied. -/
def targets (r : Request) (owner : OwnerReference) (c : Cluster) (ms : List Object) : List (Key × Object) :=
  ms.filterMap (target? r owner c)

theorem targets_congr (h : c.SameSettings c') : targets r owner c' = targets r owner c := by
  have htarget : target? r owner c' = target? r owner c := by
    funext m
    simp only [target?, Cluster.resolve, h.served]
  funext ms
  rw [targets, htarget, targets]

theorem targets_append (ms ms' : List Object) :
    targets r owner c (ms ++ ms') = targets r owner c ms ++ targets r owner c ms' := List.filterMap_append

/-- How a deployment of the manifests for `q` ends where calls may fail: it is broken off, or it is complete. The
    cluster is told by the manifests gone through. What the request holds then may be applied again. -/
inductive Ends (q : Request) (owner : OwnerReference) (ms : List Object) (c : Cluster) :
    Except ActionError Unit × Run → Prop where
  | broken (e : ActionError) {run : Run} (before after : List Object) (hms : ms = before ++ after)
    (cluster : run.world.cluster = (targets q owner c before).foldl Cluster.settle c) :
    Ends q owner ms c (.error e, run)
  | complete {run : Run} (cluster : run.world.cluster = (targets q owner c ms).foldl Cluster.settle c)
    (us : List Object) (request : run.request = { q with resources := us }) (ready : ∀ u ∈ us, Ready c u)
    (absorbs : run.world.cluster.Absorbs (targets q owner c us)) : Ends q owner ms c (.ok (), run)

namespace Ends
variable {ms : List Object} {x : Except ActionError Unit × Run} {p : Key × Object}

theorem withResources {resources : List Object} (h : Ends { r with resources := resources } owner ms c x) :
    Ends r owner ms c x := by
  cases h with
  | broken e before after hms cluster => exact .broken e before after hms cluster
  | complete cluster us request ready absorbs => exact .complete cluster us request ready absorbs

/-- The manifests behind the first one find the cluster where that is settled. -/
theorem cons (htarget : target? r owner c m = some p) (h : Ends r owner ms (c.settle p) x) :
    Ends r owner (m :: ms) c x := by
  have hset : c.SameSettings (c.settle p) := (Cluster.settle_cases c p.1 p.2).1
  have hsame : targets r owner (c.settle p) = targets r owner c := targets_congr hset
  have hfirst (ms : List Object) : (targets r owner (c.settle p) ms).foldl Cluster.settle (c.settle p) =
      (targets r owner c (m :: ms)).foldl Cluster.settle c := by
    rw [hsame, targets, targets, List.filterMap_cons_some htarget, List.foldl_cons]
  cases h with
  | broken e before after hms cluster =>
    exact .broken e (m :: before) after (by rw [hms]; rfl) (cluster.trans (hfirst before))
  | complete cluster us request ready absorbs =>
    rw [hsame] at absorbs
    exact .complete (cluster.trans (hfirst _)) us request (fun u hu => (ready_congr hset).mp (ready u hu)) absorbs

end Ends

theorem deployAll_ends (owner : OwnerReference) (ms : List Object) {done : List Object} {run : Run}
    (quiet : run.world.Quiet) (hresources : run.request.resources = done ++ ms)
    (hready : ∀ o ∈ done ++ ms, Ready run.world.cluster o)
    (absorbs : run.world.cluster.Absorbs (targets run.request owner run.world.cluster done)) :
    Ends run.request owner ms run.world.cluster (deployAll owner done ms run) := by
  induction ms generalizing done run with
  | nil =>
    rw [List.append_nil] at hresources hready
    refine .complete rfl done ?_ hready absorbs
    rw [← hresources]
  | cons m ms ih =>
    rw [deployAll, Computation.bind_ok RunM.request_eq]
    have houtcome := deploy_outcome quiet run.request owner m
    generalize hdeploy : deploy run.request owner m run.world = x at houtcome
    cases houtcome with
    | failed e _ same =>
      rw [Computation.bind_error (RunM.ofOp_eq hdeploy)]
      exact .broken _ [] (m :: ms) rfl same
    | @settled made w k x quiet' htarget hcluster held =>
      rw [Computation.bind_ok (RunM.ofOp_eq hdeploy), RunM.modifyRequest, Computation.bind_ok (Computation.modify_eq _)]
      let run' : Run := ⟨w, { run.request with resources := done ++ [made.getD m] ++ ms }⟩
      have hset : run.world.cluster.SameSettings (run.world.cluster.settle (k, x)) :=
        (Cluster.settle_cases _ k x).1
      -- What the request holds of the manifest from now on may be applied behind all that was applied before.
      have hready₀ : Ready run.world.cluster m := hready m (List.mem_append_right done List.mem_cons_self)
      obtain ⟨x', htarget', hready', hrepeats⟩ := target?_repeats hready₀ htarget held
      have hcluster : run'.world.cluster = run.world.cluster.settle (k, x) := hcluster
      have hready : ∀ o ∈ done ++ [made.getD m] ++ ms, Ready run'.world.cluster o := by
        intro o ho
        rw [hcluster, ready_congr hset]
        rw [List.append_assoc, List.mem_append, List.mem_append, List.mem_singleton] at ho
        obtain ho | rfl | ho := ho
        · exact hready o (List.mem_append_left _ ho)
        · exact hready'
        · exact hready o (List.mem_append_right _ (List.mem_cons_of_mem m ho))
      have absorbs' : run'.world.cluster.Absorbs
          (targets run'.request owner run'.world.cluster (done ++ [made.getD m])) := by
        show run'.world.cluster.Absorbs (targets run.request owner run'.world.cluster _)
        rw [hcluster, targets_congr hset, targets, List.filterMap_append, List.filterMap_cons_some htarget',
          List.filterMap_nil]
        exact absorbs.settle hrepeats
      have hends := (@ih _ run' quiet' rfl hready absorbs').withResources
      rw [hcluster] at hends
      exact hends.cons htarget

/-! ### Deployments that end well -/

/-- If nothing interferes, a manifest that is ready is deployed, unless its deployed copy was opted out. -/
theorem deploy_calm {w : World} (calm : w.Calm) (owner : OwnerReference) (hready : Ready w.cluster m) :
    ∃ made w', deploy r owner m w = (.ok made, w') ∧ w.SameSettings w' ∧ (made = none →
      ∃ k x, target? r owner w.cluster m = some (k, x) ∧ (w.cluster.object? k).any (·.metadata.isUnmanaged) = true) := by
  obtain ⟨hname, gvk, found, hgvk, hfound⟩ := hready
  obtain ⟨result, w', hdeploy, hcourse⟩ := deploy_course r owner m w
  cases hcourse with
  | untyped hnone => cases hgvk.symm.trans hnone
  | unresolved hgvk' hresolve =>
    cases hgvk.symm.trans hgvk'
    rw [World.resolve_calm calm, hfound] at hresolve
    cases hresolve
  | unread _ hresolve hget =>
    rw [World.resolve_calm calm] at hresolve
    obtain ⟨-, rfl⟩ := Prod.mk.inj hresolve
    rw [World.getObject_calm ((World.SameSettings.called _ w).calm calm)] at hget
    cases hget
  | skipped finds optedOut =>
    obtain ⟨-, htarget, rfl⟩ := finds.target calm.arrivals owner
    exact ⟨_, _, hdeploy, (finds.deploys owner calm).1.settings, fun _ => ⟨_, _, htarget, optedOut⟩⟩
  | @unapplied gvk resource scope deployed e w₁ w' finds _ happly =>
    rw [World.applyObject_calm ((finds.deploys owner calm).1.settings.calm calm)] at happly
    have hnamed : (setController owner (stamp r (placed scope r.config.applicationsNamespace m))).metadata.name.isSome :=
      hname
    obtain ⟨o, c', happlied⟩ := (Cluster.apply_eq_ok_iff (c := w₁.cluster) (r := resource)).mpr hnamed
    rw [happlied] at happly
    cases happly
  | applied =>
    obtain ⟨_, hdeploys⟩ := deploy_ok calm hdeploy
    exact ⟨_, _, hdeploy, hdeploys.settings, fun hnone => by cases hnone⟩

theorem deployAll_calm (owner : OwnerReference) (ms : List Object) {done : List Object} {run : Run}
    (calm : run.world.Calm) (hready : ∀ m ∈ ms, Ready run.world.cluster m) :
    (deployAll owner done ms run).1 = .ok () := by
  induction ms generalizing done run with
  | nil => rfl
  | cons m ms ih =>
    obtain ⟨hm, hms⟩ := List.forall_mem_cons.mp hready
    obtain ⟨made, w', hdeploy, hset, -⟩ := deploy_calm (r := run.request) calm owner hm
    rw [deployAll, Computation.bind_ok RunM.request_eq, Computation.bind_ok (RunM.ofOp_eq hdeploy), RunM.modifyRequest,
      Computation.bind_ok (Computation.modify_eq _)]
    exact ih (hset.calm calm) fun m hm => (ready_congr hset.cluster).mpr (hms m hm)

end
end Deploy

/-- The subject has a UID, and the resources have names and types that are served. -/
structure Request.Deployable (q : Request) (c : Cluster) : Prop where
  uid : q.subject.metadata.uid.isSome
  ready : ∀ m ∈ q.resources, Deploy.Ready c m

/-- Whatever calls fail, a deployment for `q` that ends well takes the cluster from `c` to `c'`. It ends well if nothing
    interferes and the subject has a name. -/
def Request.LeadsTo (q : Request) (c c' : Cluster) : Prop := ∀ w : World, w.Quiet → w.cluster = c →
  (w.Calm → q.subject.metadata.name.isSome → (Action.deploy.run ⟨w, q⟩).1 = .ok ()) ∧
    ∀ run, Action.deploy.run ⟨w, q⟩ = (.ok (), run) → run.world.cluster = c'

section
open Deploy
variable {q : Request} {c c' : Cluster}

theorem Action.deploy_of_owner {owner : OwnerReference} (howner : q.subject.controllerReference? = some owner)
    (w : World) : deploy.run ⟨w, q⟩ = deployAll owner [] q.resources ⟨w, q⟩ := by
  rw [deploy]
  dsimp only
  rw [Computation.bind_ok RunM.request_eq, howner]

theorem Action.deploy_of_no_owner (howner : q.subject.controllerReference? = none) (w : World) :
    deploy.run ⟨w, q⟩ = (.error (DeployError.missingOwnerUid q.subject.name).actionError, ⟨w, q⟩) := by
  rw [deploy]
  dsimp only
  rw [Computation.bind_ok RunM.request_eq, howner]
  rfl

/-- A subject without a name never has anything deployed. -/
theorem Request.Deployable.leadsTo_of_no_owner (h : q.Deployable c) (howner : q.subject.controllerReference? = none)
    (c c' : Cluster) : q.LeadsTo c c' := by
  rintro w - -
  rw [Action.deploy_of_no_owner howner]
  refine ⟨fun _ hname => ?_, fun run hrun => by cases hrun⟩
  obtain ⟨name, hname⟩ := Option.isSome_iff_exists.mp hname
  obtain ⟨uid, huid⟩ := Option.isSome_iff_exists.mp h.uid
  rw [Instance.controllerReference?, hname, huid] at howner
  cases howner

theorem Action.deploy_ends {owner : OwnerReference} (howner : q.subject.controllerReference? = some owner) {w : World}
    (quiet : w.Quiet) (hready : ∀ m ∈ q.resources, Ready w.cluster m) :
    Ends q owner q.resources w.cluster (deploy.run ⟨w, q⟩) := by
  rw [deploy_of_owner howner]
  exact @deployAll_ends owner q.resources [] ⟨w, q⟩ quiet rfl hready (Cluster.absorbs_nil _)

theorem Request.Deployable.settings (h : q.Deployable c) (hset : c.SameSettings c') : q.Deployable c' :=
  ⟨h.uid, fun m hm => (ready_congr hset).mpr (h.ready m hm)⟩

/-- A deployment leads to where its manifests are settled. -/
theorem Request.Deployable.leadsTo (h : q.Deployable c) {owner : OwnerReference}
    (howner : q.subject.controllerReference? = some owner) :
    q.LeadsTo c ((targets q owner c q.resources).foldl Cluster.settle c) := by
  rintro w quiet rfl
  refine ⟨fun calm _ => ?_, fun run hrun => ?_⟩
  · rw [Action.deploy_of_owner howner]
    exact deployAll_calm owner q.resources calm h.ready
  · have hends := Action.deploy_ends howner quiet h.ready
    rw [hrun] at hends
    cases hends with
    | complete cluster _ _ _ _ => exact cluster

/-- A deployment that was broken off may be repeated, and one that ended well changes nothing when it is repeated, with
    the manifests or with what the cluster made of them. -/
theorem Action.deploy_again (deployable : q.Deployable c) :
    ∃ c', q.LeadsTo c c' ∧ ∀ w, w.Quiet → w.cluster = c →
      (∀ e run, deploy.run ⟨w, q⟩ = (.error e, run) → q.LeadsTo run.world.cluster c') ∧
        ∀ run, deploy.run ⟨w, q⟩ = (.ok (), run) → q.LeadsTo c' c' ∧ run.request.LeadsTo c' c' := by
  cases howner : q.subject.controllerReference? with
  | none =>
    have hleads := deployable.leadsTo_of_no_owner howner
    refine ⟨c, hleads c c, fun w _ _ => ⟨fun e run _ => hleads run.world.cluster c, fun run hrun => ?_⟩⟩
    rw [deploy_of_no_owner howner] at hrun
    cases hrun
  | some owner =>
    refine ⟨_, deployable.leadsTo howner, ?_⟩
    rintro w quiet rfl
    have hends := deploy_ends howner quiet deployable.ready
    have hset (ms : List Object) :
        w.cluster.SameSettings ((targets q owner w.cluster ms).foldl Cluster.settle w.cluster) :=
      Cluster.foldl_settle_sameSettings _ _
    refine ⟨fun e run hrun => ?_, fun run hrun => ?_⟩ <;> rw [hrun] at hends
    · cases hends with
      | broken _ before after hms cluster =>
        -- The repetition begins where the first manifests are settled already.
        have hleads := (deployable.settings (hset before)).leadsTo howner
        rwa [targets_congr (hset before), hms, targets_append, Cluster.foldl_settle_of_prefix, ← targets_append, ← hms,
          ← cluster] at hleads
    · cases hends with
      | complete cluster us request ready absorbs =>
        have hleads := (deployable.settings (hset q.resources)).leadsTo howner
        rw [targets_congr (hset q.resources), Cluster.foldl_settle_again] at hleads
        refine ⟨hleads, ?_⟩
        have hsame : w.cluster.SameSettings run.world.cluster := cluster ▸ hset q.resources
        have hdeployable : run.request.Deployable run.world.cluster := by
          rw [request]
          exact ⟨deployable.uid, fun u hu => (ready_congr hsame).mpr (ready u hu)⟩
        -- What the request holds now was made by the cluster, which absorbs it.
        have hfixed : (targets run.request owner run.world.cluster run.request.resources).foldl Cluster.settle
            run.world.cluster = run.world.cluster := by
          rw [targets_congr hsame, request]
          exact absorbs.foldl_settle
        have hleads' := hdeployable.leadsTo (by rw [request]; exact howner)
        rwa [hfixed, cluster] at hleads'

end

/-! ### A deployment that is broken off -/

namespace Sample

/-- The manifests of a dashboard, of which two are for one map. -/
def manifests : List Object :=
  [(configMap "settings").mapMeta fun m => { m with finalizers := some ["example.com/hold"] }, configMap "settings",
    configMap "limits"]

/-- The first apply of the last map fails. -/
def refusing : World where
  cluster := cluster []
  faults := [⟨⟨"apply", none, some "limits"⟩, 0, some 1, fun kind name => .conflict kind name "try again"⟩]

theorem manifests_deployable : (request (dashboard "d" 1) manifests).Deployable (cluster []) where
  uid := rfl
  ready m hm := by
    have hserved : (cluster []).resolve ⟨"", "v1", "ConfigMap"⟩ =
        .ok (⟨"", "v1", "ConfigMap", "configmaps"⟩, .namespaced) := by decide +kernel
    simp only [request, manifests, List.mem_cons, List.not_mem_nil, or_false] at hm
    obtain rfl | rfl | rfl := hm <;> exact ⟨rfl, _, _, by decide, hserved⟩

end Sample

open Sample in
/-- The settings were applied before the limits failed, and are applied again when the deployment is repeated. -/
theorem Action.deploy_again_sample :
    let q := request (dashboard "d" 1) manifests
    let broken := (deploy.run ⟨refusing, q⟩).2.world.cluster
    let repeated := (deploy.run ⟨{ cluster := broken }, q⟩).2.world.cluster
    let single := (deploy.run ⟨{ cluster := cluster [] }, q⟩).2.world.cluster
    q.Deployable (cluster []) ∧ (deploy.run ⟨refusing, q⟩).1.isOk = false ∧ broken ≠ cluster [] ∧ broken ≠ single ∧
      repeated = single := by
  intro q broken repeated single
  obtain ⟨c', hleads, hrest⟩ := deploy_again manifests_deployable
  have hends {c : Cluster} (h : q.LeadsTo c c') : (deploy.run ⟨{ cluster := c }, q⟩).2.world.cluster = c' := by
    obtain ⟨hok, hcluster⟩ := h { cluster := c } rfl rfl
    exact hcluster _ (Prod.ext (hok ⟨rfl, rfl⟩ rfl) rfl)
  have hfails : (deploy.run ⟨refusing, q⟩).1.isOk = false := by decide +kernel
  have hretry : q.LeadsTo broken c' := by
    rcases hrun : deploy.run ⟨refusing, q⟩ with ⟨e | ⟨⟩, run⟩
    · have hbroken := (hrest refusing rfl rfl).1 e run hrun
      have hsame : broken = run.world.cluster := congrArg (·.2.world.cluster) hrun
      rwa [hsame]
    · rw [hrun] at hfails
      cases hfails
  exact ⟨manifests_deployable, hfails, by decide +kernel, by decide +kernel, (hends hretry).trans (hends hleads).symm⟩

end PlatformOperator
