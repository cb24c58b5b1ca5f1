import PlatformOperator.Proofs.Cluster.Cascade
import PlatformOperator.Proofs.Computation

/-! Calls in a calm world, where no fault is due and no object arrives: a call is recorded and does what
    the cluster does. -/

namespace PlatformOperator

namespace World

/-- Nothing interferes with calls. -/
structure Calm (w : World) : Prop where
  faults : w.faults = []
  arrivals : w.arrivals = []

/-- The world after a call that changes nothing. -/
def called (call : Call) (w : World) : World := { w with calls := w.calls ++ [call] }

/-- What calls are answered from, the objects apart, is the same in both worlds. -/
structure SameSettings (w w' : World) : Prop where
  faults : w'.faults = w.faults
  arrivals : w'.arrivals = w.arrivals
  discovery : w'.discovery = w.discovery
  cluster : w.cluster.SameSettings w'.cluster

/-- The types whose objects the operator may delete. -/
def deletable (w : World) : List CatalogType :=
  Catalog.compute (w.discovery.getD w.cluster.served) w.cluster.rules

section
variable {w w₁ w' : World}

theorem SameSettings.refl (w : World) : w.SameSettings w := ⟨rfl, rfl, rfl, .refl _⟩

theorem SameSettings.trans (h₁ : w.SameSettings w₁) (h₂ : w₁.SameSettings w') : w.SameSettings w' :=
  ⟨h₂.faults.trans h₁.faults, h₂.arrivals.trans h₁.arrivals, h₂.discovery.trans h₁.discovery,
    h₁.cluster.trans h₂.cluster⟩

theorem SameSettings.symm (h : w.SameSettings w') : w'.SameSettings w :=
  ⟨h.faults.symm, h.arrivals.symm, h.discovery.symm, h.cluster.symm⟩

theorem SameSettings.calm (h : w.SameSettings w') (calm : w.Calm) : w'.Calm :=
  ⟨h.faults.trans calm.faults, h.arrivals.trans calm.arrivals⟩

theorem SameSettings.deletable (h : w.SameSettings w') : w'.deletable = w.deletable := by
  rw [World.deletable, h.discovery, h.cluster.served, h.cluster.rules, World.deletable]

theorem SameSettings.called (call : Call) (w : World) : w.SameSettings (w.called call) := ⟨rfl, rfl, rfl, .refl _⟩

theorem begin_calm (calm : w.Calm) (call : Call) : begin call w = (.ok (), w.called call) := by
  obtain ⟨_, faults, arrivals, _, _, _, _, _, _, _⟩ := w
  obtain ⟨rfl, rfl⟩ := calm
  rfl

theorem discover_calm (calm : w.Calm) :
    discover w = (.ok (w.discovery.getD w.cluster.served), w.called .discover) :=
  Computation.bind_ok (begin_calm calm _)

theorem accessRules_calm (calm : w.Calm) («namespace» : String) :
    accessRules «namespace» w = (.ok w.cluster.rules, w.called (.rules «namespace»)) :=
  Computation.bind_ok (begin_calm calm _)

theorem resolve_calm (calm : w.Calm) (g : Gvk) : resolve g w = (w.cluster.resolve g, w.called (.resolve g)) :=
  Computation.bind_ok (begin_calm calm _)

theorem list_calm (calm : w.Calm) (r : ApiResource) («namespace» selector : Option String) :
    list r «namespace» selector w =
      (w.cluster.list r «namespace» selector, w.called (.list r «namespace» selector)) :=
  Computation.bind_ok (begin_calm calm _)

theorem getObject_calm (calm : w.Calm) (r : ApiResource) («namespace» : Option String) (name : String) :
    getObject r «namespace» name w = (.ok (w.cluster.get r «namespace» name), w.called (.get r «namespace» name)) :=
  Computation.bind_ok (begin_calm calm _)

theorem applyObject_calm (calm : w.Calm) (r : ApiResource) (o : Object) :
    applyObject r o w =
      match w.cluster.apply r o with
      | .ok (o', c') => (.ok (returned w.hiddenUids r o'),
        { w.called (.apply r o.metadata.namespace o.name) with cluster := c', clock := w.clock.tick })
      | .error e => (.error e, { w.called (.apply r o.metadata.namespace o.name) with clock := w.clock.tick }) := by
  refine (Computation.bind_ok (begin_calm calm _)).trans ?_
  let call := Call.apply r o.metadata.namespace o.name
  rcases hr : w.cluster.apply r o with e | ⟨o', c'⟩
  · have hchange : change (fun _ c => c.apply r o) (w.called call) =
        (.error e, { w.called call with clock := w.clock.tick }) := by
      simp only [change, called, hr]
    exact Computation.bind_error hchange
  · have hchange : change (fun _ c => c.apply r o) (w.called call) =
        (.ok o', { w.called call with cluster := c', clock := w.clock.tick }) := by
      simp only [change, called, hr]
    exact Computation.bind_ok hchange

/-- What an apply returns may lack the UID, and nothing else. -/
theorem returned_eq (hidden : List String) (r : ApiResource) (o : Object) :
    ∃ uid, returned hidden r o = o.mapMeta fun d => { d with uid } := by
  rw [returned]
  split
  · exact ⟨none, rfl⟩
  · exact ⟨o.metadata.uid, rfl⟩

theorem returned_uid_iff {hidden : List String} {r : ApiResource} {o : Object} {uid : String} :
    (returned hidden r o).metadata.uid = some uid ↔ r.kind ∉ hidden ∧ o.metadata.uid = some uid := by
  rw [returned]
  split
  · next h => exact ⟨fun hnone => (by cases hnone), fun hshown => absurd h hshown.1⟩
  · next h => exact ⟨fun huid => ⟨h, huid⟩, And.right⟩

/-- A delete that no refusal meets removes the object, if there is one. -/
theorem delete_calm (calm : w.Calm) (willing : w.cluster.deleteRefusals = []) (r : ApiResource)
    («namespace» : Option String) (name : String) (policy : Propagation) :
    delete r «namespace» name policy w =
      if (w.cluster.object? (.ofResource r «namespace» name)).isSome then
        (.ok (), { w.called (.delete r «namespace» name policy) with
          cluster := w.cluster.remove w.clock.next policy (.ofResource r «namespace» name), clock := w.clock.tick })
      else (.error (.notFound r.kind name),
        { w.called (.delete r «namespace» name policy) with clock := w.clock.tick }) := by
  refine (Computation.bind_ok (begin_calm calm _)).trans ?_
  by_cases h : (w.cluster.object? (.ofResource r «namespace» name)).isSome <;>
    simp only [change, called, Cluster.delete, willing, List.lookup_nil, h, if_true, Bool.false_eq_true, if_false,
      Except.map]

end
end World
end PlatformOperator
