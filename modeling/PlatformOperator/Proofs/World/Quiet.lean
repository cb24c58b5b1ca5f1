import PlatformOperator.Proofs.World.Calls

/-! Calls in a world where no object arrives, though any call may fail: it fails and changes nothing, or it does
    what the cluster does. -/

namespace PlatformOperator

namespace World
variable {α : Type} {w : World} {call : Call}

/-- Nothing but calls changes the objects. -/
def Quiet (w : World) : Prop := w.arrivals = []

/-- The world once a call is recorded and counted by the faults. -/
def struck (call : Call) (w : World) : World :=
  { w with faults := (strike call w.faults).2, calls := w.calls ++ [call] }

/-- The world once a call that changes the cluster failed, before or after it read the clock. -/
def refused (call : Call) (clock : Clock) (w : World) : World := { w.struck call with clock }

/-- The world once a call changed the cluster. -/
def served (call : Call) (cluster : Cluster) (w : World) : World :=
  { w.struck call with cluster, clock := w.clock.tick }

@[simp] theorem struck_cluster : (w.struck call).cluster = w.cluster := rfl

@[simp] theorem refused_cluster {clock : Clock} : (w.refused call clock).cluster = w.cluster := rfl

@[simp] theorem served_cluster {c : Cluster} : (w.served call c).cluster = c := rfl

theorem Quiet.struck (h : w.Quiet) (call : Call) : (w.struck call).Quiet := h

theorem Quiet.served (h : w.Quiet) (call : Call) (c : Cluster) : (w.served call c).Quiet := h

theorem begin_quiet (quiet : w.Quiet) (call : Call) :
    begin call w = (match (strike call w.faults).1 with | some e => .error e | none => .ok (), w.struck call) := by
  obtain ⟨_, _, arrivals, _, _, _, _, _, _, _⟩ := w
  obtain rfl : arrivals = [] := quiet
  rfl

/-- A call fails, or goes on in the world where it is recorded. -/
theorem begin_bind (quiet : w.Quiet) (call : Call) (f : Unit → Op ApiError α) :
    (∃ e, (begin call >>= f) w = (.error e, w.struck call)) ∨ (begin call >>= f) w = f () (w.struck call) := by
  have hbegin := begin_quiet quiet call
  cases hstrike : (strike call w.faults).1 with
  | some e =>
    rw [hstrike] at hbegin
    exact .inl ⟨e, Computation.bind_error hbegin⟩
  | none =>
    rw [hstrike] at hbegin
    exact .inr (Computation.bind_ok hbegin)

theorem change_cases (f : Timestamp → Cluster → Except ApiError (α × Cluster)) (w : World) :
    (∃ e, change f w = (.error e, { w with clock := w.clock.tick })) ∨ ∃ a c, f w.clock.next w.cluster = .ok (a, c) ∧
      change f w = (.ok a, { w with cluster := c, clock := w.clock.tick }) := by
  unfold change
  rcases f w.clock.next w.cluster with e | ⟨a, c⟩
  · exact .inl ⟨e, rfl⟩
  · exact .inr ⟨a, c, rfl, rfl⟩

/-- A call that changes the cluster fails and leaves it alone, or serves what the cluster does. -/
theorem begin_change (quiet : w.Quiet) (call : Call) (f : Timestamp → Cluster → Except ApiError (α × Cluster)) :
    (∃ e clock, (begin call >>= fun _ => change f) w = (.error e, w.refused call clock)) ∨
      ∃ a c, f w.clock.next w.cluster = .ok (a, c) ∧
        (begin call >>= fun _ => change f) w = (.ok a, w.served call c) := by
  rcases begin_bind quiet call (fun _ => change f) with ⟨e, h⟩ | h
  · exact .inl ⟨e, w.clock, h⟩
  · rw [h]
    exact (change_cases f (w.struck call)).imp_left fun ⟨e, hchange⟩ => ⟨e, w.clock.tick, hchange⟩

/-- A call that only reads fails, or answers from the cluster. -/
theorem begin_ask (quiet : w.Quiet) (call : Call) (f : Cluster → Except ApiError α) :
    (∃ e, (begin call >>= fun _ => ask f) w = (.error e, w.struck call)) ∨
      (begin call >>= fun _ => ask f) w = (f w.cluster, w.struck call) :=
  begin_bind quiet call _

theorem resolve_quiet (quiet : w.Quiet) (g : Gvk) :
    (∃ e, resolve g w = (.error e, w.struck (.resolve g))) ∨
      resolve g w = (w.cluster.resolve g, w.struck (.resolve g)) :=
  begin_ask quiet _ _

theorem list_quiet (quiet : w.Quiet) (r : ApiResource) («namespace» selector : Option String) :
    (∃ e, list r «namespace» selector w = (.error e, w.struck (.list r «namespace» selector))) ∨
      list r «namespace» selector w =
        (w.cluster.list r «namespace» selector, w.struck (.list r «namespace» selector)) :=
  begin_ask quiet _ _

theorem getObject_quiet (quiet : w.Quiet) (r : ApiResource) («namespace» : Option String) (name : String) :
    (∃ e, getObject r «namespace» name w = (.error e, w.struck (.get r «namespace» name))) ∨
      getObject r «namespace» name w = (.ok (w.cluster.get r «namespace» name), w.struck (.get r «namespace» name)) :=
  begin_ask quiet _ _

theorem applyObject_quiet (quiet : w.Quiet) (r : ApiResource) (o : Object) :
    let call := Call.apply r o.metadata.namespace o.name
    (∃ e clock, applyObject r o w = (.error e, w.refused call clock)) ∨
      ∃ o' c, w.cluster.apply r o = .ok (o', c) ∧
        applyObject r o w = (.ok (returned w.hiddenUids r o'), w.served call c) := by
  intro call
  have hbind : applyObject r o w = ((begin call >>= fun _ => change fun _ c => c.apply r o) >>=
      fun o' => do return returned (← get).hiddenUids r o') w := by
    rw [bind_assoc]
    rfl
  rw [hbind]
  rcases begin_change quiet call (fun _ c => c.apply r o) with ⟨e, clock, h⟩ | ⟨o', c, hc, h⟩
  · exact .inl ⟨e, clock, Computation.bind_error h⟩
  · exact .inr ⟨o', c, hc, Computation.bind_ok h⟩

theorem mergePatch_quiet (quiet : w.Quiet) (r : ApiResource) («namespace» : Option String) (name : String)
    (patch : Json) :
    (∃ e clock,
        mergePatch r «namespace» name patch w = (.error e, w.refused (.mergePatch r «namespace» name patch) clock)) ∨
      ∃ o c, w.cluster.mergePatch w.clock.next r «namespace» name patch = .ok (o, c) ∧
        mergePatch r «namespace» name patch w = (.ok o, w.served (.mergePatch r «namespace» name patch) c) :=
  begin_change quiet _ _

/-- A change of the cluster that answers nothing. -/
theorem begin_change_unit (quiet : w.Quiet) (call : Call) (f : Timestamp → Cluster → Except ApiError Cluster) :
    (∃ e clock,
        (begin call >>= fun _ => change fun now c => (f now c).map ((), ·)) w = (.error e, w.refused call clock)) ∨
      ∃ c, f w.clock.next w.cluster = .ok c ∧
        (begin call >>= fun _ => change fun now c => (f now c).map ((), ·)) w = (.ok (), w.served call c) := by
  rcases begin_change quiet call (fun now c => (f now c).map ((), ·)) with h | ⟨_, c, hc, h⟩
  · exact .inl h
  · rcases hf : f w.clock.next w.cluster with e | c'
    · rw [hf] at hc
      cases hc
    · rw [hf] at hc
      cases hc
      exact .inr ⟨c, rfl, h⟩

theorem patchStatus_quiet (quiet : w.Quiet) (r : ApiResource) («namespace» : Option String) (name : String)
    (status : Json) :
    (∃ e clock, patchStatus r «namespace» name status w =
        (.error e, w.refused (.patchStatus r «namespace» name status) clock)) ∨
      ∃ c, w.cluster.patchStatus r «namespace» name status = .ok c ∧
        patchStatus r «namespace» name status w = (.ok (), w.served (.patchStatus r «namespace» name status) c) :=
  begin_change_unit quiet _ _

theorem delete_quiet (quiet : w.Quiet) (r : ApiResource) («namespace» : Option String) (name : String)
    (policy : Propagation) :
    (∃ e clock,
        delete r «namespace» name policy w = (.error e, w.refused (.delete r «namespace» name policy) clock)) ∨
      ∃ c, w.cluster.delete w.clock.next r «namespace» name policy = .ok c ∧
        delete r «namespace» name policy w = (.ok (), w.served (.delete r «namespace» name policy) c) :=
  begin_change_unit quiet _ _

/-! ### What computations keep -/

/-- Nothing but calls changes the objects, and the cluster is as `Q` says. -/
structure Within (Q : Cluster → Prop) (w : World) : Prop where
  quiet : w.Quiet
  cluster : Q w.cluster

/-- If the first world is within what `Q` says, the second one is. -/
def Keeping (Q : Cluster → Prop) (w w' : World) : Prop := w.Within Q → w'.Within Q

instance (Q : Cluster → Prop) : IsPreorder World (Keeping Q) where
  refl _ := id
  trans _ _ _ h₁ h₂ := h₂ ∘ h₁

end World

namespace Op
open Computation
variable {ε α : Type} {Q : Cluster → Prop} {keys : Key → Prop} {x : Op ε α} {w : World}

/-- Whatever comes of it, the computation keeps the cluster as `Q` says. -/
def Preserves (Q : Cluster → Prop) (x : Op ε α) : Prop := Moves (World.Keeping Q) x

/-- The computation leaves the objects at the keys alone. -/
def Spares (keys : Key → Prop) (x : Op ε α) : Prop :=
  ∀ w : World, w.Quiet → (x w).2.Quiet ∧ ∀ k, keys k → (x w).2.cluster.object? k = w.cluster.object? k

/-- What is about spared objects alone is kept. -/
theorem Spares.preserves (h : x.Spares keys)
    (hQ : ∀ c c' : Cluster, (∀ k, keys k → c'.object? k = c.object? k) → Q c → Q c') : x.Preserves Q :=
  fun w hw => ⟨(h w hw.quiet).1, hQ _ _ (h w hw.quiet).2 hw.cluster⟩

theorem Preserves.within {w' : World} {result : Except ε α} (hx : x.Preserves Q) (hw : w.Within Q)
    (h : x w = (result, w')) : w'.Within Q := by
  have hafter := hx w hw
  rwa [h] at hafter

theorem preserves_timed (f : StateM Clock α) : (timed f : Op ε α).Preserves Q := fun _ hw => ⟨hw.quiet, hw.cluster⟩

end Op

namespace World
open Computation
variable {Q : Cluster → Prop}

theorem begin_preserves (call : Call) : (begin call).Preserves Q := fun w hw => by
  rw [begin_quiet hw.quiet]
  exact ⟨hw.quiet, hw.cluster⟩

theorem discover_preserves : discover.Preserves Q := Moves.bind (begin_preserves _) fun _ _ hw => hw

theorem accessRules_preserves {«namespace» : String} : (accessRules «namespace»).Preserves Q :=
  Moves.bind (begin_preserves _) fun _ _ hw => hw

theorem resolve_preserves {g : Gvk} : (resolve g).Preserves Q := Moves.bind (begin_preserves _) fun _ _ hw => hw

theorem getObject_preserves {r : ApiResource} {«namespace» : Option String} {name : String} :
    (getObject r «namespace» name).Preserves Q :=
  Moves.bind (begin_preserves _) fun _ _ hw => hw

end World
end PlatformOperator
