import Mathlib.Logic.Function.Iterate
import PlatformOperator.Proofs.Action.Collect

/-! A collection taken apart into stages. One step from a stage to the next makes one call on the API at most, so that
    anything else may happen in between; one step after the other and nothing else is the collection. -/

namespace PlatformOperator

/-! ### Calls of a computation -/

/-- Until the second world no other calls than these were made, and what the operator remembers is the same. -/
def World.Calling (P : Call → Prop) (w w' : World) : Prop :=
  w'.memory = w.memory ∧ ∃ calls, w'.calls = w.calls ++ calls ∧ ∀ call ∈ calls, P call

instance (P : Call → Prop) : IsPreorder World (World.Calling P) where
  refl _ := ⟨rfl, [], (List.append_nil _).symm, List.forall_mem_nil P⟩
  trans _ _ _ := by
    rintro ⟨hmemory, calls, hcalls, hP⟩ ⟨hmemory', calls', hcalls', hP'⟩
    refine ⟨hmemory'.trans hmemory, calls ++ calls', ?_, List.forall_mem_append.mpr ⟨hP, hP'⟩⟩
    rw [hcalls', hcalls, List.append_assoc]

/-- The computation makes no other calls than these, and leaves alone what the operator remembers. -/
def Op.CallsOnly {ε α : Type} (P : Call → Prop) (x : Op ε α) : Prop := Computation.Moves (World.Calling P) x

namespace World
variable {P : Call → Prop}

theorem begin_callsOnly {call : Call} (h : P call) : Op.CallsOnly P (begin call) :=
  fun _ => ⟨rfl, [call], rfl, fun _ hcall => List.mem_singleton.mp hcall ▸ h⟩

theorem change_callsOnly {α : Type} (f : Timestamp → Cluster → Except ApiError (α × Cluster)) :
    Op.CallsOnly P (change f) := by
  intro w
  unfold change
  cases f w.clock.next w.cluster <;> exact ⟨rfl, [], (List.append_nil _).symm, fun _ h => by cases h⟩

theorem discover_callsOnly (h : P .discover) : Op.CallsOnly P discover :=
  (begin_callsOnly h).bind fun _ => .of_snd fun _ => rfl

theorem accessRules_callsOnly {«namespace» : String} (h : P (.rules «namespace»)) :
    Op.CallsOnly P (accessRules «namespace») :=
  (begin_callsOnly h).bind fun _ => .of_snd fun _ => rfl

theorem list_callsOnly {r : ApiResource} {«namespace» selector : Option String} (h : P (.list r «namespace» selector)) :
    Op.CallsOnly P (list r «namespace» selector) :=
  (begin_callsOnly h).bind fun _ => .of_snd fun _ => rfl

theorem delete_callsOnly {r : ApiResource} {«namespace» : Option String} {name : String} {policy : Propagation}
    (h : P (.delete r «namespace» name policy)) : Op.CallsOnly P (delete r «namespace» name policy) :=
  (begin_callsOnly h).bind fun _ => change_callsOnly _

end World

/-- The type whose objects a call lists or deletes. -/
def Call.collected? : Call → Option ApiResource
  | .list r _ _ | .delete r _ _ _ => some r
  | _ => none

namespace Engine

def Within (t : CatalogType) (call : Call) : Prop := ∀ r, call.collected? = some r → r = t.apiResource

theorem listObjects_callsOnly (options : PassOptions) (t : CatalogType) :
    Op.CallsOnly (Within t) (listObjects options t) := by
  refine (World.list_callsOnly (fun r h => (Option.some.inj h).symm)).outcome.bind fun result => ?_
  cases result with
  | ok os => exact .pure os
  | error e =>
    dsimp only
    split
    · exact .pure []
    · exact .throw _

theorem deleteObject_callsOnly (t : CatalogType) (o : Object) (policy : Propagation) :
    Op.CallsOnly (Within t) (deleteObject t o policy) := by
  refine (World.delete_callsOnly (fun r h => (Option.some.inj h).symm)).outcome.bind fun result => ?_
  cases result with
  | ok => exact .pure ()
  | error e =>
    dsimp only
    split
    · exact .pure ()
    · exact .throw _

end Engine

/-! ### Stages -/

/-- How far a collection is. A pass has types still to go through, and before them objects of the type it is at. -/
inductive Stage where
  | begun
  | refreshing
  | discovered (lists : List DiscoveryList)
  | reviewed (lists : List DiscoveryList) (rules : List AccessRule)
  | refreshed
  | passing (types : List CatalogType) (deleted : Nat)
  | deleting (type : CatalogType) (objects : List Object) (types : List CatalogType) (deleted : Nat)
  | passed (deleted : Nat)
  | ended (result : Except CollectionError Unit)

/-- The types of the catalog that a pass has not finished with. -/
def Stage.ahead : Stage → List CatalogType
  | passing types _ => types
  | deleting t _ types _ => t :: types
  | _ => []

inductive Stage.Precedes : Stage → Stage → Prop
  | begun : Precedes .begun .refreshing
  | discovered (lists : List DiscoveryList) : Precedes .refreshing (.discovered lists)
  | reviewed (lists : List DiscoveryList) (rules : List AccessRule) :
    Precedes (.discovered lists) (.reviewed lists rules)
  | refreshed (lists : List DiscoveryList) (rules : List AccessRule) : Precedes (.reviewed lists rules) .refreshed
  | started (types : List CatalogType) : Precedes .refreshed (.passing types 0)
  | skipped (t : CatalogType) (types : List CatalogType) (deleted : Nat) :
    Precedes (.passing (t :: types) deleted) (.passing types deleted)
  | listed (t : CatalogType) (objects : List Object) (types : List CatalogType) (deleted : Nat) :
    Precedes (.passing (t :: types) deleted) (.deleting t objects types deleted)
  | decided (t : CatalogType) (o : Object) (objects : List Object) (types : List CatalogType) (deleted deleted' : Nat) :
    Precedes (.deleting t (o :: objects) types deleted) (.deleting t objects types deleted')
  | finished (t : CatalogType) (types : List CatalogType) (deleted : Nat) :
    Precedes (.deleting t [] types deleted) (.passing types deleted)
  | passed (deleted : Nat) : Precedes (.passing [] deleted) (.passed deleted)
  | counted (deleted : Nat) : Precedes (.passed deleted) (.ended (.ok ()))
  | ended (result : Except CollectionError Unit) : Precedes (.ended result) (.ended result)

theorem Stage.Precedes.ahead {stage stage' : Stage} (h : stage.Precedes stage') (hstage : stage ≠ .refreshed) :
    stage'.ahead ⊆ stage.ahead := by
  cases h with
  | started => exact absurd rfl hstage
  | skipped => exact List.subset_cons_self _ _
  | finished => exact List.subset_cons_self _ _
  | _ => exact List.Subset.refl _

/-- The catalog that a step from the stage publishes. -/
def Stage.published? : Stage → Option (List CatalogType)
  | reviewed lists rules => some (Catalog.compute lists rules)
  | _ => none

namespace GarbageCollector
variable (g : GarbageCollector) (r : Request)

def sought : PassOptions := g.options r.subject (currentState r)

def policy : Propagation := (g.sought r).propagation.getD g.engine.propagation

def place : String := g.rulesNamespace.getD r.config.applicationsNamespace

def countCycle : Op CollectionError Unit := modify (g.count fun t => { t with cycles := t.cycles + 1 })

def countDeleted (n : Nat) : Op CollectionError Unit := modify (g.count fun t => { t with deleted := t.deleted + n })

def discover : Op CollectionError (List DiscoveryList) :=
  Op.mapError .refreshEngine (Op.mapError .discoverResources World.discover)

def review : Op CollectionError (List AccessRule) :=
  Op.mapError .refreshEngine
    (Op.mapError (.retrieveResourceRules · (g.place r)) (World.accessRules (g.place r)))

def publish (lists : List DiscoveryList) (rules : List AccessRule) : Op CollectionError Unit :=
  modify (g.engine.setCatalog (Catalog.compute lists rules))

def advance : Stage → Op CollectionError Stage
  | .begun => do
    g.countCycle
    return .refreshing
  | .refreshing => do
    let lists ← discover
    return .discovered lists
  | .discovered lists => do
    let rules ← g.review r
    return .reviewed lists rules
  | .reviewed lists rules => do
    g.publish lists rules
    return .refreshed
  | .refreshed => do
    let w ← get
    return .passing (g.engine.catalog w) 0
  | .passing [] deleted => return .passed deleted
  | .passing (t :: types) deleted =>
    match (g.sought r).acceptsType t with
    | .error c => throw (.runEngine (.evaluateTypePredicate c t.text))
    | .ok false => return .passing types deleted
    | .ok true => do
      let os ← Op.mapError .runEngine (Engine.listObjects (g.sought r) t)
      return .deleting t os types deleted
  | .deleting _ [] types deleted => return .passing types deleted
  | .deleting t (o :: os) types deleted =>
    match (g.sought r).acceptsObject o with
    | .error c => throw (.runEngine (.evaluateObjectPredicate c o.name (o.metadata.namespace.getD "")))
    | .ok accepted =>
      if accepted && !o.metadata.isTerminating then do
        Op.mapError .runEngine (Engine.deleteObject t o (g.policy r))
        return .deleting t os types (deleted + 1)
      else return .deleting t os types deleted
  | .passed deleted => do
    g.countDeleted deleted
    return .ended (.ok ())
  | .ended result => return .ended result

/-- The stage after this one, and the world then. A collection that fails is over. -/
def next (stage : Stage) (w : World) : Stage × World :=
  match g.advance r stage w with
  | (.ok stage', w') => (stage', w')
  | (.error e, w') => (.ended (.error e), w')

/-! ### The whole collection -/

def pass : Op CollectionError Unit := do
  let deleted ← Op.mapError .runEngine (g.engine.run (g.sought r))
  g.countDeleted deleted

/-- What is left of a collection at a stage. -/
def rest : Stage → Op CollectionError Unit
  | .begun => g.collect r
  | .refreshing => do
    Op.mapError .refreshEngine (g.engine.refresh (g.place r))
    g.pass r
  | .discovered lists => do
    let rules ← g.review r
    g.publish lists rules
    g.pass r
  | .reviewed lists rules => do
    g.publish lists rules
    g.pass r
  | .refreshed => g.pass r
  | .passing types deleted => do
    let deleted ← Op.mapError .runEngine (Engine.passTypes (g.sought r) (g.policy r) types deleted)
    g.countDeleted deleted
  | .deleting t os types deleted => do
    let deleted ← Op.mapError .runEngine (Engine.passObjects (g.sought r) (g.policy r) t os deleted)
    let deleted ← Op.mapError .runEngine (Engine.passTypes (g.sought r) (g.policy r) types deleted)
    g.countDeleted deleted
  | .passed deleted => g.countDeleted deleted
  | .ended result => fun w => (result, w)

variable {g r} {stage stage' : Stage} {w w' : World}

/-- A step does what comes first of all that is left. -/
theorem rest_eq (stage : Stage) : g.rest r stage = g.advance r stage >>= g.rest r := by
  cases stage with
  | begun => rfl
  | refreshing =>
    simp only [rest, advance, Engine.refresh, Op.mapError_bind, bind_assoc, pure_bind]
    rfl
  | discovered lists => simp only [rest, advance, bind_assoc, pure_bind]
  | reviewed lists rules => simp only [rest, advance, bind_assoc, pure_bind]
  | refreshed => rfl
  | passing types deleted =>
    cases types with
    | nil => rfl
    | cons t types =>
      simp only [rest, advance, Engine.passTypes]
      rcases (g.sought r).acceptsType t with c | _ | _
      · rfl
      · rfl
      · simp only [Op.mapError_bind, bind_assoc, pure_bind, rest]
  | deleting t os types deleted =>
    cases os with
    | nil => rfl
    | cons o os =>
      simp only [rest, advance, Engine.passObjects]
      rcases (g.sought r).acceptsObject o with c | accepted
      · rfl
      · dsimp only
        split
        · simp only [Op.mapError_bind, bind_assoc, pure_bind, rest]
        · rfl
  | passed deleted => rfl
  | ended result => rfl

theorem rest_next (stage : Stage) (w : World) :
    g.rest r stage w = g.rest r (g.next r stage w).1 (g.next r stage w).2 := by
  rw [rest_eq, next]
  rcases h : g.advance r stage w with ⟨e | stage', w'⟩
  · rw [Computation.bind_error h]
    rfl
  · rw [Computation.bind_ok h]

/-! ### Single steps -/

theorem next_snd (stage : Stage) (w : World) : (g.next r stage w).2 = (g.advance r stage w).2 := by
  unfold next
  rcases g.advance r stage w with ⟨e | stage', w'⟩ <;> rfl

theorem next_of_ok (h : g.advance r stage w = (.ok stage', w')) : g.next r stage w = (stage', w') := by rw [next, h]

theorem precedes_of_advance (h : g.advance r stage w = (.ok stage', w')) : stage.Precedes stage' := by
  have hmap {α : Type} {x : Op CollectionError α} {f : α → Stage}
      (hx : (x >>= fun a => pure (f a)) w = (.ok stage', w')) : ∃ a, f a = stage' := by
    obtain ⟨a, w₁, -, ha⟩ := Computation.bind_eq_ok.mp hx
    exact ⟨a, Except.ok.inj (congrArg Prod.fst ha)⟩
  cases stage with
  | begun =>
    obtain ⟨-, rfl⟩ := hmap h
    exact .begun
  | refreshing =>
    obtain ⟨lists, rfl⟩ := hmap h
    exact .discovered lists
  | discovered lists =>
    obtain ⟨rules, rfl⟩ := hmap h
    exact .reviewed lists rules
  | reviewed lists rules =>
    obtain ⟨-, rfl⟩ := hmap h
    exact .refreshed lists rules
  | refreshed =>
    obtain ⟨w₁, rfl⟩ := hmap h
    exact .started _
  | passing types deleted =>
    cases types with
    | nil =>
      cases h
      exact .passed deleted
    | cons t types =>
      rcases htype : (g.sought r).acceptsType t with c | _ | _ <;> simp only [advance, htype] at h
      · cases h
      · cases h
        exact .skipped t types deleted
      · obtain ⟨os, rfl⟩ := hmap h
        exact .listed t os types deleted
  | deleting t os types deleted =>
    cases os with
    | nil =>
      cases h
      exact .finished t types deleted
    | cons o os =>
      rcases hobject : (g.sought r).acceptsObject o with c | accepted <;> simp only [advance, hobject] at h
      · cases h
      · cases hdoomed : accepted && !o.metadata.isTerminating <;> rw [hdoomed] at h
        · cases h
          exact .decided t o os types deleted deleted
        · obtain ⟨-, rfl⟩ := hmap h
          exact .decided t o os types deleted (deleted + 1)
  | passed deleted =>
    obtain ⟨-, rfl⟩ := hmap h
    exact .counted deleted
  | ended result =>
    cases h
    exact .ended result

theorem precedes_next (stage : Stage) (w : World) :
    stage.Precedes (g.next r stage w).1 ∨ ∃ e, (g.next r stage w).1 = .ended (.error e) := by
  rcases h : g.advance r stage w with ⟨e | stage', w'⟩
  · exact .inr ⟨e, by rw [next, h]⟩
  · rw [next_of_ok h]
    exact .inl (precedes_of_advance h)

/-- What a step changes, the objects apart: it lists and deletes objects of types ahead, and replaces the catalog if
    it publishes one. -/
structure Steps (g : GarbageCollector) (stage : Stage) (w w' : World) : Prop where
  calls : ∃ calls, w'.calls = w.calls ++ calls ∧
    ∀ call ∈ calls, ∀ res, call.collected? = some res → ∃ t ∈ stage.ahead, t.apiResource = res
  catalog : g.engine.catalog w' = stage.published?.getD (g.engine.catalog w)

theorem Steps.of_callsOnly {α : Type} {x : Op CollectionError α} {P : Call → Prop} (hx : Op.CallsOnly P x)
    (hstage : stage.published? = none)
    (hP : ∀ call, P call → ∀ res, call.collected? = some res → ∃ t ∈ stage.ahead, t.apiResource = res) (w : World) :
    Steps g stage w (x w).2 := by
  obtain ⟨hmemory, calls, hcalls, hmade⟩ := hx w
  refine ⟨⟨calls, hcalls, fun call hcall => hP call (hmade call hcall)⟩, ?_⟩
  rw [hstage, Option.getD_none, Engine.catalog, hmemory, Engine.catalog]

theorem Steps.of_same_calls (hcalls : w'.calls = w.calls)
    (hcatalog : g.engine.catalog w' = stage.published?.getD (g.engine.catalog w)) : Steps g stage w w' :=
  ⟨⟨[], hcalls.trans (List.append_nil _).symm, fun _ h => by cases h⟩, hcatalog⟩

theorem steps_next (stage : Stage) (w : World) : Steps g stage w (g.next r stage w).2 := by
  have hlookup (call : Call) (hcall : call.collected? = none) (res : ApiResource) (h : call.collected? = some res) :
      ∃ t ∈ stage.ahead, t.apiResource = res := by cases hcall.symm.trans h
  rw [next_snd]
  cases stage with
  | begun => exact .of_same_calls rfl rfl
  | refreshing =>
    have hcalls : Op.CallsOnly (·.collected? = none) (g.advance r .refreshing) :=
      ((World.discover_callsOnly (P := (·.collected? = none)) rfl).mapError.mapError).bind fun _ => .pure _
    exact .of_callsOnly hcalls rfl hlookup w
  | discovered lists =>
    have hcalls : Op.CallsOnly (·.collected? = none) (g.advance r (.discovered lists)) :=
      ((World.accessRules_callsOnly (P := (·.collected? = none)) rfl).mapError.mapError).bind fun _ => .pure _
    exact .of_callsOnly hcalls rfl hlookup w
  | reviewed lists rules => exact .of_same_calls rfl (Engine.catalog_setCatalog _ _ w)
  | refreshed => exact .of_same_calls rfl rfl
  | passing types deleted =>
    cases types with
    | nil => exact .of_same_calls rfl rfl
    | cons t types =>
      have hcalls : Op.CallsOnly (Engine.Within t) (g.advance r (.passing (t :: types) deleted)) := by
        simp only [advance]
        split
        · exact .throw _
        · exact .pure _
        · exact ((Engine.listObjects_callsOnly _ t).mapError).bind fun _ => .pure _
      exact .of_callsOnly hcalls rfl (fun call hcall res h => ⟨t, List.mem_cons_self, (hcall res h).symm⟩) w
  | deleting t os types deleted =>
    cases os with
    | nil => exact .of_same_calls rfl rfl
    | cons o os =>
      have hcalls : Op.CallsOnly (Engine.Within t) (g.advance r (.deleting t (o :: os) types deleted)) := by
        simp only [advance]
        split
        · exact .throw _
        · split
          · exact ((Engine.deleteObject_callsOnly t o _).mapError).bind fun _ => .pure _
          · exact .pure _
      exact .of_callsOnly hcalls rfl (fun call hcall res h => ⟨t, List.mem_cons_self, (hcall res h).symm⟩) w
  | passed deleted => exact .of_same_calls rfl rfl
  | ended result => exact .of_same_calls rfl rfl

/-! ### From the first stage to the last -/

variable (g r)

def Completes (stage : Stage) (w : World) : Prop :=
  ∃ n, (fun p : Stage × World => g.next r p.1 p.2)^[n] (stage, w) =
    (.ended (g.rest r stage w).1, (g.rest r stage w).2)

variable {g r}

theorem completes_ended (result : Except CollectionError Unit) (w : World) : g.Completes r (.ended result) w := ⟨0, rfl⟩

theorem Completes.of_precedes (h : ∀ stage', stage.Precedes stage' → ∀ w, g.Completes r stage' w) (w : World) :
    g.Completes r stage w := by
  have hnext : g.Completes r (g.next r stage w).1 (g.next r stage w).2 := by
    rcases precedes_next (g := g) (r := r) stage w with hstage | ⟨e, hover⟩
    · exact h _ hstage _
    · rw [hover]
      exact completes_ended _ _
  obtain ⟨n, hn⟩ := hnext
  refine ⟨n + 1, ?_⟩
  rw [rest_next, Function.iterate_succ_apply]
  exact hn

theorem completes_passed (deleted : Nat) : ∀ w, g.Completes r (.passed deleted) w :=
  Completes.of_precedes fun _ h => by
    cases h
    exact completes_ended _

theorem completes_deleting {t : CatalogType} {types : List CatalogType}
    (h : ∀ deleted w, g.Completes r (.passing types deleted) w) (os : List Object) (deleted : Nat) :
    ∀ w, g.Completes r (.deleting t os types deleted) w := by
  induction os generalizing deleted with
  | nil =>
    refine Completes.of_precedes fun stage' hstage => ?_
    cases hstage
    exact h deleted
  | cons o os ih =>
    refine Completes.of_precedes fun stage' hstage => ?_
    cases hstage with
    | decided _ _ _ _ _ deleted' => exact ih deleted'

theorem completes_passing (types : List CatalogType) (deleted : Nat) :
    ∀ w, g.Completes r (.passing types deleted) w := by
  induction types generalizing deleted with
  | nil =>
    refine Completes.of_precedes fun stage' hstage => ?_
    cases hstage
    exact completes_passed deleted
  | cons t types ih =>
    refine Completes.of_precedes fun stage' hstage => ?_
    cases hstage with
    | skipped => exact ih deleted
    | listed _ os => exact completes_deleting ih os deleted

/-- One step after the other, from the first stage to the last, is the collection. -/
theorem completes_begun (g : GarbageCollector) (r : Request) (w : World) :
    ∃ n, (fun p : Stage × World => g.next r p.1 p.2)^[n] (.begun, w) =
      (.ended (g.collect r w).1, (g.collect r w).2) := by
  have hrefreshed : ∀ w, g.Completes r .refreshed w := Completes.of_precedes fun _ h => by
    cases h
    exact completes_passing _ _
  have hreviewed (lists : List DiscoveryList) (rules : List AccessRule) :
      ∀ w, g.Completes r (.reviewed lists rules) w :=
    Completes.of_precedes fun _ h => by
      cases h
      exact hrefreshed
  have hdiscovered (lists : List DiscoveryList) : ∀ w, g.Completes r (.discovered lists) w :=
    Completes.of_precedes fun _ h => by
      cases h
      exact hreviewed lists _
  have hrefreshing : ∀ w, g.Completes r .refreshing w := Completes.of_precedes fun _ h => by
    cases h
    exact hdiscovered _
  have hbegun : ∀ w, g.Completes r .begun w := Completes.of_precedes fun _ h => by
    cases h
    exact hrefreshing
  exact hbegun w

end GarbageCollector
end PlatformOperator
