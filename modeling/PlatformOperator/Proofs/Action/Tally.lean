import Mathlib.Algebra.GroupWithZero.Nat
import PlatformOperator.Proofs.Action.Idempotence
import PlatformOperator.Proofs.Collector.Stages

/-! The counters of a collector, over any number of collections. The deletions that the cluster confirmed are counted
    once a collection ends well; if it fails, they are lost. Confirmed deletions are read off the calls that were made:
    each is put once more to the world it was put to. -/

namespace PlatformOperator

/-! ### Confirmed deletions -/

namespace World

/-- The world after a call that reads or deletes. -/
def afterCall (w : World) (call : Call) : World :=
  match call with
  | .delete r «namespace» name policy => (delete r «namespace» name policy w).2
  | call => (begin call w).2

/-- The call deletes an object, and the cluster answers that it is deleted or not there. -/
def confirms (w : World) (call : Call) : Bool :=
  match call with
  | .delete r «namespace» name policy =>
    match (delete r «namespace» name policy w).1 with
    | .ok () => true
    | .error e => e.isNotFound
  | _ => false

/-- How many deletions are confirmed as the calls are made, one after the other. -/
def confirmed : List Call → World → Nat
  | [], _ => 0
  | call :: calls, w => (w.confirms call).toNat + confirmed calls (w.afterCall call)

/-- How many of the deletions asked for between the worlds were confirmed. -/
def deletedUntil (w w' : World) : Nat := confirmed (w'.calls.drop w.calls.length) w

/-- The world with another memory. -/
def remembering (m : Memory) (w : World) : World := { w with memory := m }

/-- From `w` to `w'` the operator made calls that read or delete, and had `n` deletions confirmed. -/
def Deletes (n : Nat) (w w' : World) : Prop :=
  ∃ calls, w'.calls = w.calls ++ calls ∧ w' = (calls.foldl afterCall w).remembering w'.memory ∧ confirmed calls w = n

section
variable {w w₁ w' : World} {m m' : Memory} {call : Call} {calls : List Call} {n n' : Nat}

theorem remembering_remembering : (w.remembering m).remembering m' = w.remembering m' := rfl

/-! Calls go by the cluster, and not by what the operator remembers. -/

theorem change_remembering {α : Type} (f : Timestamp → Cluster → Except ApiError (α × Cluster)) (m : Memory)
    (w : World) : change f (w.remembering m) = ((change f w).1, (change f w).2.remembering m) := by
  simp only [change, remembering]
  cases f w.clock.next w.cluster <;> rfl

theorem delete_remembering (r : ApiResource) («namespace» : Option String) (name : String) (policy : Propagation)
    (m : Memory) (w : World) :
    delete r «namespace» name policy (w.remembering m) =
      ((delete r «namespace» name policy w).1, (delete r «namespace» name policy w).2.remembering m) := by
  let call := Call.delete r «namespace» name policy
  have hbegin : begin call (w.remembering m) = ((begin call w).1, (begin call w).2.remembering m) := rfl
  unfold delete
  rcases h : begin call w with ⟨e | ⟨⟩, w₁⟩ <;> rw [h] at hbegin
  · rw [Computation.bind_error h, Computation.bind_error hbegin]
  · rw [Computation.bind_ok h, Computation.bind_ok hbegin]
    exact change_remembering _ m w₁

theorem afterCall_remembering : (w.remembering m).afterCall call = (w.afterCall call).remembering m := by
  cases call with
  | delete r «namespace» name policy => exact congrArg Prod.snd (delete_remembering r «namespace» name policy m w)
  | _ => rfl

theorem foldl_afterCall_remembering :
    calls.foldl afterCall (w.remembering m) = (calls.foldl afterCall w).remembering m := by
  induction calls generalizing w with
  | nil => rfl
  | cons call calls ih => rw [List.foldl_cons, afterCall_remembering, ih, List.foldl_cons]

theorem confirms_remembering : (w.remembering m).confirms call = w.confirms call := by
  cases call with
  | delete r «namespace» name policy => simp only [confirms, delete_remembering]
  | _ => rfl

theorem confirmed_remembering : confirmed calls (w.remembering m) = confirmed calls w := by
  induction calls generalizing w with
  | nil => rfl
  | cons call calls ih => simp only [confirmed, confirms_remembering, afterCall_remembering, ih]

theorem confirmed_append (calls' : List Call) :
    confirmed (calls ++ calls') w = confirmed calls w + confirmed calls' (calls.foldl afterCall w) := by
  induction calls generalizing w with
  | nil => exact (Nat.zero_add _).symm
  | cons call calls ih => simp only [List.cons_append, confirmed, ih, List.foldl_cons, Nat.add_assoc]

namespace Deletes

theorem remembering (w : World) (m : Memory) : Deletes 0 w (w.remembering m) :=
  ⟨[], (List.append_nil _).symm, rfl, rfl⟩

theorem refl (w : World) : Deletes 0 w w := remembering w w.memory

theorem trans (h : Deletes n w w₁) (h' : Deletes n' w₁ w') : Deletes (n + n') w w' := by
  obtain ⟨calls, hcalls, hw₁, rfl⟩ := h
  obtain ⟨calls', hcalls', hw', rfl⟩ := h'
  refine ⟨calls ++ calls', by rw [hcalls', hcalls, List.append_assoc], ?_, ?_⟩
  · rw [List.foldl_append]
    rwa [hw₁, foldl_afterCall_remembering, remembering_remembering] at hw'
  · rw [confirmed_append, hw₁, confirmed_remembering]

/-- What was confirmed can be read off the calls. -/
theorem deletedUntil_eq (h : Deletes n w w') : w.deletedUntil w' = n := by
  obtain ⟨calls, hcalls, -, rfl⟩ := h
  rw [deletedUntil, hcalls, List.drop_left]

end Deletes

/-- A call that deletes nothing confirms no deletion. -/
theorem begin_deletes (hcall : ∀ r «namespace» name policy, call ≠ .delete r «namespace» name policy) (w : World) :
    Deletes 0 w (begin call w).2 := by
  refine ⟨[call], rfl, ?_, ?_⟩
  · cases call with
    | delete r «namespace» name policy => exact absurd rfl (hcall r «namespace» name policy)
    | _ => rfl
  · cases call with
    | delete r «namespace» name policy => exact absurd rfl (hcall r «namespace» name policy)
    | _ => rfl

theorem delete_deletes (r : ApiResource) («namespace» : Option String) (name : String) (policy : Propagation)
    (w : World) :
    Deletes (w.confirms (.delete r «namespace» name policy)).toNat w (delete r «namespace» name policy w).2 := by
  let call := Call.delete r «namespace» name policy
  have hbegin : (begin call w).2.calls = w.calls ++ [call] := rfl
  have hchange (w : World) (f : Timestamp → Cluster → Except ApiError (Unit × Cluster)) :
      (change f w).2.calls = w.calls := by
    unfold change
    cases f w.clock.next w.cluster <;> rfl
  refine ⟨[call], ?_, rfl, rfl⟩
  unfold delete
  rcases h : begin call w with ⟨e | ⟨⟩, w₁⟩ <;> rw [h] at hbegin
  · rw [Computation.bind_error h]
    exact hbegin
  · rw [Computation.bind_ok h, ← hbegin]
    exact hchange w₁ _

end
end World

/-! ### What a collection deletes -/

/-- Until the second world nothing was deleted, and nothing counted. -/
def World.Reading (w w' : World) : Prop := w.Deletes 0 w' ∧ w'.memory.tallies = w.memory.tallies

instance : IsPreorder World World.Reading where
  refl w := ⟨.refl w, rfl⟩
  trans _ _ _ h₁ h₂ := ⟨h₁.1.trans h₂.1, h₂.2.trans h₁.2⟩

/-- The computation deletes nothing, and counts nothing. -/
def Op.Reads {ε α : Type} (x : Op ε α) : Prop := Computation.Moves World.Reading x

theorem World.begin_reads {call : Call}
    (hcall : ∀ r «namespace» name policy, call ≠ .delete r «namespace» name policy) :
    (World.begin call).Reads := fun w => ⟨World.begin_deletes hcall w, rfl⟩

namespace Engine

theorem refresh_reads (e : Engine) («namespace» : String) : (e.refresh «namespace»).Reads := by
  have hdiscover : World.discover.Reads := (World.begin_reads (by simp)).bind fun _ => .of_snd fun _ => rfl
  have hrules : (World.accessRules «namespace»).Reads :=
    (World.begin_reads (by simp)).bind fun _ => .of_snd fun _ => rfl
  refine hdiscover.mapError.bind fun lists => hrules.mapError.bind fun rules w => ⟨?_, rfl⟩
  exact .remembering w (e.setCatalog (Catalog.compute lists rules) w).memory

theorem listObjects_reads (options : PassOptions) (t : CatalogType) : (listObjects options t).Reads := by
  have hlist : (World.list t.apiResource none options.selector).Reads :=
    (World.begin_reads (by simp)).bind fun _ => .of_snd fun _ => rfl
  refine hlist.outcome.bind fun listed => .of_snd fun w => ?_
  cases listed with
  | ok os => rfl
  | error e =>
    dsimp only
    split <;> rfl

/-- The deletion of an object ends well just if it is confirmed. -/
theorem deleteObject_deletes (t : CatalogType) (o : Object) (policy : Propagation) (w : World) :
    w.Deletes (deleteObject t o policy w).1.isOk.toNat (deleteObject t o policy w).2 := by
  have hdeletes := World.delete_deletes t.apiResource o.metadata.namespace o.name policy w
  simp only [World.confirms] at hdeletes
  rcases hcall : World.delete t.apiResource o.metadata.namespace o.name policy w with ⟨e | ⟨⟩, w₁⟩ <;>
    rw [hcall] at hdeletes <;> rw [deleteObject, Computation.bind_ok (Op.outcome_eq hcall)]
  · dsimp only at hdeletes ⊢
    cases hgone : e.isNotFound <;> rw [hgone] at hdeletes
    · exact hdeletes
    · exact hdeletes
  · exact hdeletes

/-- What a part of a pass comes to that starts at `n`: nothing is counted for good, and if the part ends well, it
    went on counting the confirmed deletions. -/
def Counts (n : Nat) (w : World) (result : Except CollectError Nat × World) : Prop :=
  ∃ m, w.Deletes m result.2 ∧ result.2.memory.tallies = w.memory.tallies ∧ ∀ n', result.1 = .ok n' → n' = n + m

section
variable {n m : Nat} {w w₁ : World} {result : Except CollectError Nat × World}

theorem counts_ok (n : Nat) (w : World) : Counts n w (.ok n, w) :=
  ⟨0, .refl w, rfl, fun _ h => (Except.ok.inj h).symm⟩

theorem counts_error (hdeletes : w.Deletes m w₁) (htallies : w₁.memory.tallies = w.memory.tallies) (e : CollectError) :
    Counts n w (.error e, w₁) := ⟨m, hdeletes, htallies, fun _ h => by cases h⟩

theorem Counts.after (hdeletes : w.Deletes m w₁) (htallies : w₁.memory.tallies = w.memory.tallies)
    (h : Counts (n + m) w₁ result) : Counts n w result := by
  obtain ⟨m', hdeletes', htallies', hcount⟩ := h
  exact ⟨m + m', hdeletes.trans hdeletes', htallies'.trans htallies, fun n' hn' => by rw [hcount n' hn', Nat.add_assoc]⟩

end

theorem passObjects_counts (options : PassOptions) (policy : Propagation) (t : CatalogType) (os : List Object) (n : Nat)
    (w : World) : Counts n w (passObjects options policy t os n w) := by
  induction os generalizing n w with
  | nil => exact counts_ok n w
  | cons o os ih =>
    rw [passObjects]
    cases options.acceptsObject o with
    | error c => exact counts_error (.refl w) rfl _
    | ok accepted =>
      dsimp only
      split
      · have hdeletes := deleteObject_deletes t o policy w
        have hmemory := (deleteObject_callsOnly t o policy w).1
        rcases h : deleteObject t o policy w with ⟨e | ⟨⟩, w₁⟩ <;> rw [h] at hdeletes hmemory
        · rw [Computation.bind_error h]
          exact counts_error hdeletes (congrArg Memory.tallies hmemory) e
        · rw [Computation.bind_ok h]
          exact (ih (n + 1) w₁).after hdeletes (congrArg Memory.tallies hmemory)
      · exact ih n w

theorem passTypes_counts (options : PassOptions) (policy : Propagation) (ts : List CatalogType) (n : Nat) (w : World) :
    Counts n w (passTypes options policy ts n w) := by
  induction ts generalizing n w with
  | nil => exact counts_ok n w
  | cons t ts ih =>
    rw [passTypes]
    rcases options.acceptsType t with c | _ | _
    · exact counts_error (.refl w) rfl _
    · exact ih n w
    · obtain ⟨hdeletes, htallies⟩ := listObjects_reads options t w
      dsimp only
      rcases hlist : listObjects options t w with ⟨e | os, w₁⟩ <;> rw [hlist] at hdeletes htallies
      · rw [Computation.bind_error hlist]
        exact counts_error hdeletes htallies e
      rw [Computation.bind_ok hlist]
      refine Counts.after hdeletes htallies ?_
      obtain ⟨m, hdeletes', htallies', hcount⟩ := passObjects_counts options policy t os n w₁
      rcases hpass : passObjects options policy t os n w₁ with ⟨e | n', w₂⟩ <;>
        rw [hpass] at hdeletes' htallies' hcount
      · rw [Computation.bind_error hpass]
        exact counts_error hdeletes' htallies' e
      · rw [Computation.bind_ok hpass]
        cases hcount n' rfl
        exact (ih (n + m) w₂).after hdeletes' htallies'

theorem run_counts (e : Engine) (options : PassOptions) (w : World) : Counts 0 w (e.run options w) :=
  passTypes_counts options (options.propagation.getD e.propagation) (e.catalog w) 0 w

end Engine

namespace GarbageCollector
variable {g : GarbageCollector} {r : Request} {w : World}

theorem tally_eq_of_tallies {w' : World} (h : w'.memory.tallies = w.memory.tallies) : g.tally w' = g.tally w := by
  rw [tally, h, tally]

/-- A collection counts itself, and the deletions that were confirmed if it ends well. -/
theorem collect_tally (g : GarbageCollector) (r : Request) (w : World) :
    g.tally (g.collect r w).2 = ⟨(g.tally w).cycles + 1,
      (g.tally w).deleted + if (g.collect r w).1.isOk then w.deletedUntil (g.collect r w).2 else 0⟩ := by
  let begun := g.count (fun t => { t with cycles := t.cycles + 1 }) w
  let options := g.options r.subject (currentState r)
  have hcycles : g.tally begun = { g.tally w with cycles := (g.tally w).cycles + 1 } := tally_count _ w
  have hbegun : w.Deletes 0 begun := .remembering w begun.memory
  rw [collect, Computation.bind_ok (Computation.modify_eq _)]
  have hrefresh : (Op.mapError CollectionError.refreshEngine
      (g.engine.refresh (g.rulesNamespace.getD r.config.applicationsNamespace))).Reads :=
    (g.engine.refresh_reads _).mapError
  obtain ⟨hdeletes, htallies⟩ := hrefresh begun
  rcases href : Op.mapError CollectionError.refreshEngine
    (g.engine.refresh (g.rulesNamespace.getD r.config.applicationsNamespace)) begun with ⟨e | ⟨⟩, w₁⟩ <;>
    rw [href] at hdeletes htallies
  · rw [Computation.bind_error href, tally_eq_of_tallies htallies, hcycles]
    rfl
  rw [Computation.bind_ok href]
  obtain ⟨m, hdeletes', htallies', hcount⟩ := g.engine.run_counts options w₁
  have htally : g.tally w₁ = g.tally begun := tally_eq_of_tallies htallies
  -- Only a pass that ends well tells how much it deleted.
  rcases hpass : g.engine.run options w₁ with ⟨e | n, w₂⟩ <;> rw [hpass] at hdeletes' htallies' hcount
  · rw [Computation.bind_error (Op.mapError_eq hpass), tally_eq_of_tallies htallies', htally, hcycles]
    rfl
  · rw [Computation.bind_ok (Op.mapError_eq hpass)]
    have hn : n = m := (hcount n rfl).trans (Nat.zero_add m)
    have hcounted : w₂.Deletes 0 (g.count (fun t => { t with deleted := t.deleted + n }) w₂) := .remembering w₂ _
    have hall := ((hbegun.trans hdeletes).trans hdeletes').trans hcounted
    have htally' : g.tally w₂ = g.tally w₁ := tally_eq_of_tallies htallies'
    show g.tally (g.count _ w₂) = ⟨_, _ + w.deletedUntil (g.count _ w₂)⟩
    rw [tally_count, hall.deletedUntil_eq, htally', htally, hcycles, hn]
    simp

/-- From the first use of the collector on, its runs one after the other, the last one first. Between two of them
    the world may change in any way, as long as the counters are left alone. -/
inductive Ran (g : GarbageCollector) : List Run → World → Prop
  | unused {w : World} (fresh : g.tally w = ⟨0, 0⟩) : Ran g [] w
  | again {runs : List Run} {w : World} (ran : Ran g runs w) (run : Run) (kept : g.tally run.world = g.tally w) :
    Ran g (run :: runs) ((Action.collect g).run run).2.world

/-- The confirmed deletions of a run. -/
def deletes (g : GarbageCollector) (run : Run) : Nat := run.world.deletedUntil ((Action.collect g).run run).2.world

def succeeds (g : GarbageCollector) (run : Run) : Bool := ((Action.collect g).run run).1.isOk

/-- A run is counted if the render is full, and what it deletes is counted if it ends well. -/
theorem run_tally (g : GarbageCollector) (run : Run) :
    g.tally ((Action.collect g).run run).2.world =
      ⟨(g.tally run.world).cycles + run.request.generated.toNat,
        (g.tally run.world).deleted + if g.succeeds run then g.deletes run else 0⟩ := by
  cases hgenerated : run.request.generated with
  | false =>
    rw [deletes, succeeds, Action.collect_of_not_generated g hgenerated, (World.Deletes.refl run.world).deletedUntil_eq]
    rfl
  | true =>
    have hok : g.succeeds run = (g.collect run.request run.world).1.isOk := by
      rw [succeeds, Action.collect_run_of_generated g hgenerated]
      show ((g.collect run.request run.world).1.mapError _).isOk = _
      cases (g.collect run.request run.world).1 <;> rfl
    rw [deletes, hok, Action.collect_run_of_generated g hgenerated]
    exact collect_tally g run.request run.world

/-- What was deleted in the runs that failed is what the counter lacks. -/
theorem sum_deletes (g : GarbageCollector) (runs : List Run) :
    (runs.map g.deletes).sum = ((runs.filter g.succeeds).map g.deletes).sum +
      ((runs.filter fun run => !g.succeeds run).map g.deletes).sum := by
  induction runs with
  | nil => rfl
  | cons run runs ih => cases h : g.succeeds run <;> simp [h, ih] <;> omega

/-- The counters of a collector over its runs: the cycles are the runs after a full render. The deletions are those
    that were confirmed in runs that ended well, and are all of them just if no failed run deleted anything. -/
theorem Ran.counters {g : GarbageCollector} {runs : List Run} {w : World} (h : g.Ran runs w) :
    (g.tally w).cycles = runs.countP (·.request.generated) ∧
      (g.tally w).deleted = ((runs.filter g.succeeds).map g.deletes).sum ∧
        ((g.tally w).deleted = (runs.map g.deletes).sum ↔
          ∀ run ∈ runs, g.succeeds run = false → g.deletes run = 0) := by
  have hcounts : (g.tally w).cycles = runs.countP (·.request.generated) ∧
      (g.tally w).deleted = ((runs.filter g.succeeds).map g.deletes).sum := by
    induction h with
    | unused fresh =>
      rw [fresh]
      exact ⟨rfl, rfl⟩
    | again ran run kept ih =>
      rw [run_tally, kept]
      dsimp only
      rw [ih.1, ih.2, List.countP_cons, List.filter_cons]
      refine ⟨by cases run.request.generated <;> rfl, ?_⟩
      split
      · rw [List.map_cons, List.sum_cons, Nat.add_comm]
      · rfl
  refine ⟨hcounts.1, hcounts.2, ?_⟩
  rw [hcounts.2]
  have hzero : ((runs.filter fun run => !g.succeeds run).map g.deletes).sum = 0 ↔
      ∀ run ∈ runs, g.succeeds run = false → g.deletes run = 0 := by
    rw [List.sum_eq_zero_iff_forall_eq_nat, List.forall_mem_map]
    simp only [List.mem_filter, Bool.not_eq_true', and_imp]
  rw [g.sum_deletes runs, ← hzero]
  exact Nat.left_eq_add

end GarbageCollector

/-! ### Deletions that are not counted -/

namespace Sample

/-- Two stale maps, and the deletion of the second one fails. -/
def disturbedRun : Run where
  world := {
    cluster := cluster [rendered "first" "1", rendered "second" "1"]
    faults := [⟨⟨"delete", none, some "second"⟩, 0, some 1, fun kind name => .conflict kind name "try again"⟩] }
  request := request (dashboard "d" 2) []

/-- What is left to collect after the disturbed run. -/
def repeatedRun : Run := ⟨((Action.collect collector).run disturbedRun).2.world, disturbedRun.request⟩

theorem disturbedRun_ran : collector.Ran [disturbedRun] repeatedRun.world :=
  .again (.unused (w := {}) rfl) disturbedRun rfl

end Sample

open Sample in
/-- The first of two runs deletes a map and fails, and the second run deletes the other map. -/
theorem GarbageCollector.Ran.counters_sample :
    let w := ((Action.collect collector).run repeatedRun).2.world
    let runs := [repeatedRun, disturbedRun]
    collector.Ran runs w ∧ (collector.tally w).cycles = runs.countP (·.request.generated) ∧
      (collector.tally w).deleted = ((runs.filter collector.succeeds).map collector.deletes).sum ∧
        ((collector.tally w).deleted = (runs.map collector.deletes).sum ↔
          ∀ run ∈ runs, collector.succeeds run = false → collector.deletes run = 0) :=
  have ran := disturbedRun_ran.again repeatedRun rfl
  ⟨ran, ran.counters⟩

open Sample in
/-- The deletion that was confirmed before the run failed is not counted, then or later. -/
theorem GarbageCollector.deleted_lost :
    let w := ((Action.collect collector).run repeatedRun).2.world
    collector.Ran [disturbedRun] repeatedRun.world ∧ collector.deletes disturbedRun = 1 ∧
      collector.tally repeatedRun.world = ⟨1, 0⟩ ∧ collector.Ran [repeatedRun, disturbedRun] w ∧
        collector.deletes repeatedRun = 1 ∧ collector.tally w = ⟨2, 1⟩ :=
  ⟨disturbedRun_ran, by decide +kernel, by decide +kernel, disturbedRun_ran.again repeatedRun rfl, by decide +kernel,
    by decide +kernel⟩

end PlatformOperator
