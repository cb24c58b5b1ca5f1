import PlatformOperator.Proofs.Collector.Stages

/-! Collectors that share an engine, with their steps interleaved in any way. A pass goes by the catalog that was
    published last before it started, which is that of its own collection unless another one published in between.
    What is published during a pass does not touch it. -/

namespace PlatformOperator

/-- Collectors of one engine. -/
structure Sharing (ι : Type) where
  engine : Engine
  collector : ι → GarbageCollector
  shared : ∀ i, (collector i).engine = engine

namespace Sharing
variable {ι : Type}

/-- What is noted down: who published a catalog, who started a pass, and who made a call. -/
inductive Entry (ι : Type) where
  | published (i : ι) (lists : List DiscoveryList) (rules : List AccessRule)
  | started (i : ι)
  | called (i : ι) (call : Call)
  deriving DecidableEq, Repr

structure Task where
  request : Request
  stage : Stage

structure State (ι : Type) where
  world : World
  /-- What each collector is at, if it ever began to collect. -/
  tasks : ι → Option Task
  log : List (Entry ι)

/-- What can happen: a collector begins a collection or makes a step of it, or something else changes the world, but not
    the catalog. -/
inductive Move (c : Sharing ι) where
  | collect (i : ι) (r : Request)
  | advance (i : ι)
  | interfere (f : World → World) (keeps : ∀ w, c.engine.catalog (f w) = c.engine.catalog w)

def marked (i : ι) : Stage → List (Entry ι)
  | .reviewed lists rules => [.published i lists rules]
  | .refreshed => [.started i]
  | _ => []

/-- What a step from the stage, between these worlds, adds to the log. -/
def noted (i : ι) (stage : Stage) (w w' : World) : List (Entry ι) :=
  (w'.calls.drop w.calls.length).map (.called i) ++ marked i stage

def idle (w : World) : State ι := ⟨w, fun _ => none, []⟩

section
variable [DecidableEq ι] (c : Sharing ι)

/-- Makes a move. A collector has one collection at a time. -/
def perform (s : State ι) : Move c → State ι
  | .collect i r =>
    match s.tasks i with
    | none | some ⟨_, .ended _⟩ => { s with tasks := Function.update s.tasks i (some ⟨r, .begun⟩) }
    | some _ => s
  | .advance i =>
    match s.tasks i with
    | none => s
    | some ⟨r, stage⟩ =>
      let (stage', w') := (c.collector i).next r stage s.world
      { world := w'
        tasks := Function.update s.tasks i (some ⟨r, stage'⟩)
        log := s.log ++ noted i stage s.world w' }
  | .interfere f _ => { s with world := f s.world }

def run (moves : List (Move c)) (s : State ι) : State ι := moves.foldl c.perform s

end

/-! ### Reading the log -/

def Entry.catalog? : Entry ι → Option (List CatalogType)
  | published _ lists rules => some (Catalog.compute lists rules)
  | _ => none

/-- The catalog after what is in the log. -/
def catalogAfter (types : List CatalogType) (log : List (Entry ι)) : List CatalogType :=
  log.foldl (fun types e => e.catalog?.getD types) types

/-- The entry says that `i` published a catalog or started a pass. -/
def Entry.Marks (i : ι) : Entry ι → Prop
  | published j _ _ => j = i
  | started j => j = i
  | called _ _ => False

/-- `i` refreshed the catalog and has not started its pass. -/
def Refreshed (i : ι) (log : List (Entry ι)) : Prop :=
  ∃ earlier lists rules between, log = earlier ++ .published i lists rules :: between ∧ ∀ e ∈ between, ¬e.Marks i

/-- `i` is in a pass that goes by these types: those of its own refresh, unless others were published between that and
    the start of the pass. -/
def PassesBy (i : ι) (log : List (Entry ι)) (types : List CatalogType) : Prop :=
  ∃ earlier lists rules between since,
    log = earlier ++ .published i lists rules :: (between ++ .started i :: since) ∧
      (∀ e ∈ between ++ since, ¬e.Marks i) ∧ types = catalogAfter (Catalog.compute lists rules) between

structure Fits (i : ι) (log : List (Entry ι)) (stage : Stage) : Prop where
  refreshed : stage = .refreshed → Refreshed i log
  ahead : ∀ t ∈ stage.ahead, ∃ types, PassesBy i log types ∧ t ∈ types

/-- Whoever lists or deletes objects does so in a pass, and of a type that the pass goes by. -/
def Justified (log : List (Entry ι)) : Prop :=
  ∀ before i call after res, log = before ++ .called i call :: after → call.collected? = some res →
    ∃ types, PassesBy i before types ∧ ∃ t ∈ types, t.apiResource = res

variable {i j : ι} {log es : List (Entry ι)} {types : List CatalogType} {stage : Stage} {w w' : World}

theorem catalogAfter_append (types : List CatalogType) (log es : List (Entry ι)) :
    catalogAfter types (log ++ es) = catalogAfter (catalogAfter types log) es :=
  List.foldl_append

theorem catalogAfter_calls (types : List CatalogType) (i : ι) (calls : List Call) :
    catalogAfter types (calls.map (.called i)) = types := by
  induction calls with
  | nil => rfl
  | cons call calls ih => exact ih

theorem Refreshed.append (h : Refreshed i log) (hes : ∀ e ∈ es, ¬e.Marks i) : Refreshed i (log ++ es) := by
  obtain ⟨earlier, lists, rules, between, rfl, hbetween⟩ := h
  refine ⟨earlier, lists, rules, between ++ es, by rw [List.append_assoc, List.cons_append], fun e he => ?_⟩
  exact (List.mem_append.mp he).elim (hbetween e) (hes e)

theorem PassesBy.append (h : PassesBy i log types) (hes : ∀ e ∈ es, ¬e.Marks i) : PassesBy i (log ++ es) types := by
  obtain ⟨earlier, lists, rules, between, since, rfl, hquiet, htypes⟩ := h
  refine ⟨earlier, lists, rules, between, since ++ es, ?_, fun e he => ?_, htypes⟩
  · simp only [List.append_assoc, List.cons_append]
  · rw [← List.append_assoc] at he
    exact (List.mem_append.mp he).elim (hquiet e) (hes e)

theorem Fits.append (h : Fits i log stage) (hes : ∀ e ∈ es, ¬e.Marks i) : Fits i (log ++ es) stage where
  refreshed hstage := (h.refreshed hstage).append hes
  ahead t ht := (h.ahead t ht).imp fun _ ⟨hpass, hmem⟩ => ⟨hpass.append hes, hmem⟩

/-! ### What is noted down -/

theorem marks_of_noted {e : Entry ι} (he : e ∈ noted i stage w w') (hmarks : e.Marks j) :
    j = i ∧ (stage = .refreshed ∨ ∃ lists rules, stage = .reviewed lists rules) := by
  rcases List.mem_append.mp he with hcall | hmark
  · obtain ⟨call, -, rfl⟩ := List.mem_map.mp hcall
    exact hmarks.elim
  · cases stage with
    | reviewed lists rules =>
      cases List.mem_singleton.mp hmark
      exact ⟨hmarks.symm, .inr ⟨lists, rules, rfl⟩⟩
    | refreshed =>
      cases List.mem_singleton.mp hmark
      exact ⟨hmarks.symm, .inl rfl⟩
    | _ => cases hmark

theorem not_marks_of_ne (hne : j ≠ i) : ∀ e ∈ noted i stage w w', ¬e.Marks j :=
  fun _ he hmarks => hne (marks_of_noted he hmarks).1

/-- In the course of a pass nothing is marked. -/
theorem not_marks_of_ahead {t : CatalogType} (ht : t ∈ stage.ahead) : ∀ e ∈ noted i stage w w', ¬e.Marks i := by
  intro e he hmarks
  obtain ⟨-, rfl | ⟨lists, rules, rfl⟩⟩ := marks_of_noted he hmarks <;> cases ht

theorem called_of_noted {calls : List Call} {call : Call} (hcalls : w'.calls = w.calls ++ calls)
    (h : .called j call ∈ noted i stage w w') : j = i ∧ call ∈ calls := by
  rw [noted, hcalls, List.drop_left] at h
  rcases List.mem_append.mp h with hcall | hmark
  · obtain ⟨call', hcall', heq⟩ := List.mem_map.mp hcall
    cases heq
    exact ⟨rfl, hcall'⟩
  · cases stage with
    | reviewed | refreshed => cases List.mem_singleton.mp hmark
    | _ => cases hmark

theorem catalogAfter_noted (types : List CatalogType) (i : ι) (stage : Stage) (w w' : World) :
    catalogAfter types (noted i stage w w') = stage.published?.getD types := by
  rw [noted, catalogAfter_append, catalogAfter_calls]
  cases stage <;> rfl

theorem mem_of_append {before after : List (Entry ι)} {e : Entry ι} (h : log ++ es = before ++ e :: after) :
    (∃ rest, log = before ++ e :: rest) ∨ ∃ since, before = log ++ since ∧ es = since ++ e :: after := by
  rcases List.append_eq_append_iff.mp h with ⟨since, hbefore, hes⟩ | ⟨rest, hlog, hrest⟩
  · exact .inr ⟨since, hbefore, hes⟩
  · cases rest with
    | nil => exact .inr ⟨[], by rw [hlog, List.append_nil, List.append_nil], hrest.symm⟩
    | cons e' rest =>
      obtain ⟨rfl, -⟩ := List.cons.inj hrest
      exact .inl ⟨rest, hlog⟩

/-! ### Steps -/

section
variable {g : GarbageCollector} {r : Request}

theorem Fits.started (h : Fits i log .refreshed) (hcatalog : g.engine.catalog w = catalogAfter types log) :
    Fits i (log ++ noted i .refreshed w (g.next r .refreshed w).2) (g.next r .refreshed w).1 := by
  obtain ⟨earlier, lists, rules, between, rfl, hbetween⟩ := h.refreshed rfl
  have hnoted : noted i .refreshed w (g.next r .refreshed w).2 = [.started i] := by
    show ((w.calls.drop w.calls.length).map _) ++ _ = _
    rw [List.drop_length]
    rfl
  -- The pass takes its types from the catalog as it is now, and never looks at it again.
  have hread : g.engine.catalog w = catalogAfter (Catalog.compute lists rules) between := by
    rw [hcatalog, catalogAfter_append]
    rfl
  rw [hnoted]
  refine ⟨fun hstage => (by cases hstage), fun t ht => ?_⟩
  refine ⟨_, ⟨earlier, lists, rules, between, [], ?_, ?_, rfl⟩, hread ▸ ht⟩
  · rw [List.append_assoc, List.cons_append]
  · rw [List.append_nil]
    exact hbetween

theorem Fits.next (h : Fits i log stage) (hcatalog : g.engine.catalog w = catalogAfter types log) :
    Fits i (log ++ noted i stage w (g.next r stage w).2) (g.next r stage w).1 := by
  by_cases hrefreshed : stage = .refreshed
  · subst hrefreshed
    exact h.started hcatalog
  · rcases GarbageCollector.precedes_next (g := g) (r := r) stage w with hstage | ⟨e, hover⟩
    · constructor
      · intro hnext
        rw [hnext] at hstage
        cases hstage with
        | refreshed lists rules =>
          refine ⟨log ++ _, lists, rules, [], (List.append_assoc _ _ _).symm, fun e he => by cases he⟩
      · intro t ht
        have ht : t ∈ stage.ahead := hstage.ahead hrefreshed ht
        exact (h.ahead t ht).imp fun _ ⟨hpass, hmem⟩ => ⟨hpass.append (not_marks_of_ahead ht), hmem⟩
    · rw [hover]
      exact ⟨fun hstage => (by cases hstage), fun t ht => (by cases ht)⟩

theorem Justified.append (h : Justified log) (hfits : Fits i log stage) (hsteps : g.Steps stage w w') :
    Justified (log ++ noted i stage w w') := by
  intro before j call after res hlog hcall
  rcases mem_of_append hlog with ⟨rest, hearlier⟩ | ⟨since, rfl, hnoted⟩
  · exact h before j call rest res hearlier hcall
  · obtain ⟨calls, hcalls, hmade⟩ := hsteps.calls
    obtain ⟨rfl, hmem⟩ := called_of_noted hcalls (hnoted ▸ List.mem_append_right since List.mem_cons_self)
    obtain ⟨t, ht, htype⟩ := hmade call hmem res hcall
    obtain ⟨types, hpass, hmem⟩ := hfits.ahead t ht
    refine ⟨types, hpass.append fun e he => ?_, t, hmem, htype⟩
    exact not_marks_of_ahead ht e (hnoted ▸ List.mem_append_left _ he)

end

/-! ### Runs -/

/-- What every move keeps: the catalog is the one published last, every collection fits the log, and every call is
    justified by it. -/
structure Inv (c : Sharing ι) (types : List CatalogType) (s : State ι) : Prop where
  catalog : c.engine.catalog s.world = catalogAfter types s.log
  tasks : ∀ i r stage, s.tasks i = some ⟨r, stage⟩ → Fits i s.log stage
  calls : Justified s.log

variable {c : Sharing ι} {s : State ι}

theorem inv_idle (c : Sharing ι) (w : World) : c.Inv (c.engine.catalog w) (idle w) where
  catalog := rfl
  tasks i r stage h := by cases h
  calls before i call after res hlog := absurd hlog (List.append_ne_nil_of_right_ne_nil _ (List.cons_ne_nil _ _)).symm

section
variable [DecidableEq ι]

theorem fits_update {tasks : ι → Option Task} {r : Request} (hi : Fits i log stage)
    (hothers : ∀ j ≠ i, ∀ r stage, tasks j = some ⟨r, stage⟩ → Fits j log stage) (j : ι) (r' : Request) (stage' : Stage)
    (hj : Function.update tasks i (some ⟨r, stage⟩) j = some ⟨r', stage'⟩) : Fits j log stage' := by
  by_cases hji : j = i
  · subst hji
    rw [Function.update_self] at hj
    cases hj
    exact hi
  · rw [Function.update_of_ne hji] at hj
    exact hothers j hji r' stage' hj

theorem Inv.begin (h : c.Inv types s) (i : ι) (r : Request) :
    c.Inv types { s with tasks := Function.update s.tasks i (some ⟨r, .begun⟩) } where
  catalog := h.catalog
  calls := h.calls
  tasks := by
    refine fits_update ⟨fun hstage => ?_, fun t ht => ?_⟩ fun j _ => h.tasks j
    · cases hstage
    · cases ht

theorem Inv.advance (h : c.Inv types s) {r : Request} (hi : s.tasks i = some ⟨r, stage⟩) :
    c.Inv types (c.perform s (.advance i)) := by
  have hperform : c.perform s (.advance i) =
      { world := ((c.collector i).next r stage s.world).2
        tasks := Function.update s.tasks i (some ⟨r, ((c.collector i).next r stage s.world).1⟩)
        log := s.log ++ noted i stage s.world ((c.collector i).next r stage s.world).2 } := by
    simp only [perform, hi]
  have hsteps := GarbageCollector.steps_next (g := c.collector i) (r := r) stage s.world
  have hcatalog : (c.collector i).engine.catalog s.world = catalogAfter types s.log := by
    rw [c.shared]
    exact h.catalog
  rw [hperform]
  constructor
  · have hpublished := hsteps.catalog
    rw [c.shared] at hpublished
    rw [hpublished, h.catalog, catalogAfter_append, catalogAfter_noted]
  · refine fits_update ((h.tasks i r stage hi).next hcatalog) fun j hji r' stage' hj => ?_
    exact (h.tasks j r' stage' hj).append (not_marks_of_ne hji)
  · exact h.calls.append (h.tasks i r stage hi) hsteps

theorem Inv.perform (h : c.Inv types s) (move : Move c) : c.Inv types (c.perform s move) := by
  cases move with
  | collect i r =>
    unfold Sharing.perform
    dsimp only
    split
    · exact h.begin i r
    · exact h.begin i r
    · exact h
  | advance i =>
    cases hi : s.tasks i with
    | none =>
      have hkept : c.perform s (.advance i) = s := by simp only [Sharing.perform, hi]
      rw [hkept]
      exact h
    | some task => exact h.advance hi
  | interfere f keeps => exact ⟨(keeps s.world).trans h.catalog, h.tasks, h.calls⟩

theorem Inv.run (h : c.Inv types s) (moves : List (Move c)) : c.Inv types (c.run moves s) := by
  induction moves generalizing s with
  | nil => exact h
  | cons move moves ih => exact ih (h.perform move)

/-- Whatever the collectors that share an engine do, in whatever order: a call that lists or deletes objects is made in
    a pass, on a type of the catalog that was the last to be published when the pass started. It is the catalog of
    the collector's own refresh before the pass, or of a refresh that another one made after that. -/
theorem passes_by_last_publication (c : Sharing ι) (w : World) (moves : List (Move c)) (before after : List (Entry ι))
    (i : ι) (call : Call) (res : ApiResource)
    (hlog : (c.run moves (idle w)).log = before ++ .called i call :: after) (hcall : call.collected? = some res) :
    ∃ earlier lists rules between since,
      before = earlier ++ .published i lists rules :: (between ++ .started i :: since) ∧
        (∀ e ∈ between ++ since, ¬e.Marks i) ∧
          ∃ t ∈ catalogAfter (Catalog.compute lists rules) between, t.apiResource = res := by
  obtain ⟨_, ⟨earlier, lists, rules, between, since, hbefore, hquiet, rfl⟩, t, ht, htype⟩ :=
    ((inv_idle c w).run moves).calls before i call after res hlog hcall
  exact ⟨earlier, lists, rules, between, since, hbefore, hquiet, t, ht, htype⟩

end

namespace Pair

/-- Two collectors of one engine, which ask for rules in namespaces of their own. -/
def pair : Sharing Bool where
  engine := ⟨.shared "engine", .foreground⟩
  collector i :=
    { GarbageCollector.plain (if i then "second" else "first") ⟨.shared "engine", .foreground⟩ with
      rulesNamespace := some (if i then "second" else "first") }
  shared _ := rfl

def served : List DiscoveryList :=
  [⟨"v1", [⟨"configmaps", "ConfigMap", true, ["delete"], none, none⟩,
    ⟨"secrets", "Secret", true, ["delete"], none, none⟩]⟩]

def deleting (plural : String) : AccessRule := ⟨["delete"], some [""], some [plural], none⟩

def granting (plural : String) (w : World) : World :=
  { w with cluster := { w.cluster with rules := [deleting plural] } }

def collection : Request := Sample.request (Sample.dashboard "d" 1) []

def configMaps : ApiResource := .ofGvk ⟨"", "v1", "ConfigMap"⟩ "configmaps"

/-- The first one may delete secrets and refreshes, then the second one, which may delete maps, and then the first one
    starts its pass. -/
def moves : List (Move pair) :=
  .interfere (granting "secrets") (fun _ => rfl) :: .collect false collection :: List.replicate 4 (.advance false) ++
    .interfere (granting "configmaps") (fun _ => rfl) :: .collect true collection :: List.replicate 4 (.advance true) ++
      List.replicate 2 (.advance false)

def world : World := { cluster := { Cluster.empty with served := served } }

def listing : Call := .list configMaps none (some "platform.opendatahub.io/part-of=dashboard")

def before : List (Entry Bool) :=
  [.called false .discover, .called false (.rules "first"), .published false served [deleting "secrets"],
    .called true .discover, .called true (.rules "second"), .published true served [deleting "configmaps"],
    .started false]

theorem log_moves : (pair.run moves (idle world)).log = before ++ [.called false listing] := by decide +kernel

end Pair

open Pair in
theorem passes_by_last_publication_sample :
    (pair.run moves (idle world)).log = before ++ [.called false listing] ∧ listing.collected? = some configMaps ∧
      ∃ earlier lists rules between since,
        before = earlier ++ .published false lists rules :: (between ++ .started false :: since) ∧
          (∀ e ∈ between ++ since, ¬e.Marks false) ∧
            ∃ t ∈ catalogAfter (Catalog.compute lists rules) between, t.apiResource = configMaps :=
  ⟨log_moves, rfl, passes_by_last_publication pair world moves before [] false listing configMaps log_moves rfl⟩

open Pair in
/-- The first collector lists maps, though its own refresh found that it may delete secrets only. -/
theorem passes_by_catalog_of_other :
    ∃ earlier lists rules between since, (pair.run moves (idle world)).log =
        earlier ++ .published false lists rules :: (between ++ .started false :: since) ++ [.called false listing] ∧
      (∀ e ∈ between ++ since, ¬e.Marks false) ∧ listing.collected? = some configMaps ∧
        ∀ t ∈ Catalog.compute lists rules, t.apiResource ≠ configMaps := by
  refine ⟨before.take 2, served, [deleting "secrets"], (before.drop 3).take 3, [], log_moves, ?_, rfl, ?_⟩
  · simp [before, Entry.Marks]
  · decide +kernel

end Sharing
end PlatformOperator
