import PlatformOperator.Proofs.Action.Deploy

/-! Computations that only look at the world. In a calm world they leave the cluster alone, and what they came to once
    they come to again, as long as calls are answered in the same way and no object goes. -/

namespace PlatformOperator

namespace World
variable {w w₁ w₂ : World} {ks ks' : List Key}

/-- Calls are answered in the same way in the later world, and the objects of the earlier one are there, changed or
    not. -/
structure Persists (w w' : World) : Prop where
  settings : w.SameSettings w'
  hidden : w'.hiddenUids = w.hiddenUids
  present : ∀ k, (w.cluster.object? k).isSome → (w'.cluster.object? k).isSome

/-- What is there persists, the clock does not go back, and the calls made in between applied objects under these
    keys. -/
structure Advances (w : World) (ks : List Key) (w' : World) : Prop extends w.Persists w' where
  clock : w.clock.readings ≤ w'.clock.readings
  calls : ∃ calls, w'.calls = w.calls ++ calls ∧ calls.filterMap Call.applied? = ks

theorem Persists.trans (h₁ : w.Persists w₁) (h₂ : w₁.Persists w₂) : w.Persists w₂ where
  settings := h₁.settings.trans h₂.settings
  hidden := h₂.hidden.trans h₁.hidden
  present k hk := h₂.present k (h₁.present k hk)

theorem Persists.refl (w : World) : w.Persists w := ⟨.refl w, rfl, fun _ hk => hk⟩

/-- Two worlds in which something persists may both move on. -/
theorem Persists.between {w' w₁' : World} (h : w.Persists w') (h₁ : w.Persists w₁) (h₂ : w'.Persists w₁')
    (hpresent : ∀ k, (w₁.cluster.object? k).isSome → (w₁'.cluster.object? k).isSome) : w₁.Persists w₁' where
  settings := h₁.settings.symm.trans (h.settings.trans h₂.settings)
  hidden := (h₂.hidden.trans h.hidden).trans h₁.hidden.symm
  present := hpresent

theorem Advances.refl (w : World) : w.Advances [] w where
  settings := .refl w
  hidden := rfl
  present _ hk := hk
  clock := Nat.le_refl _
  calls := ⟨[], (List.append_nil _).symm, rfl⟩

theorem Advances.trans (h₁ : w.Advances ks w₁) (h₂ : w₁.Advances ks' w₂) : w.Advances (ks ++ ks') w₂ where
  toPersists := h₁.toPersists.trans h₂.toPersists
  clock := Nat.le_trans h₁.clock h₂.clock
  calls := by
    obtain ⟨calls₁, hcalls₁, rfl⟩ := h₁.calls
    obtain ⟨calls₂, hcalls₂, rfl⟩ := h₂.calls
    exact ⟨calls₁ ++ calls₂, by rw [hcalls₂, hcalls₁, List.append_assoc], List.filterMap_append⟩

theorem Advances.applied_eq (h : w.Advances ks w₁) : w.applied w₁ = ks := by
  obtain ⟨calls, hcalls, rfl⟩ := h.calls
  rw [applied, hcalls, List.drop_left]

theorem Advances.calm (h : w.Advances ks w₁) (calm : w.Calm) : w₁.Calm := h.settings.calm calm

/-- A call that applies nothing is only recorded. -/
theorem Advances.called {call : Call} (h : call.applied? = none) (w : World) : w.Advances [] (w.called call) where
  settings := .called call w
  hidden := rfl
  present _ hk := hk
  clock := Nat.le_refl _
  calls := ⟨[call], rfl, by rw [List.filterMap_cons_none h, List.filterMap_nil]⟩

/-- An apply in a calm world. -/
theorem applyObject_advances {r : ApiResource} {o o' : Object} {c' : Cluster} (calm : w.Calm)
    (h : w.cluster.apply r o = .ok (o', c')) :
    ∃ w', applyObject r o w = (.ok (returned w.hiddenUids r o'), w') ∧ w'.cluster = c' ∧
      w.Advances [o.keyIn r] w' := by
  obtain ⟨hset, hobject, -⟩ := Cluster.apply_ok h
  have happly := applyObject_calm calm r o
  rw [h] at happly
  refine ⟨_, happly, rfl, ⟨⟨rfl, rfl, rfl, hset⟩, rfl, fun k hk => ?_⟩, Nat.le_succ _, [_], rfl, rfl⟩
  show (c'.object? k).isSome
  rw [hobject]
  split
  · rfl
  · exact hk

/-- A new status in a calm world. -/
theorem patchStatus_advances {r : ApiResource} {«namespace» : Option String} {name : String} {o : Object}
    (calm : w.Calm)
    (ho : w.cluster.object? (.ofResource r «namespace» name) = some o) (status : Json) :
    ∃ w', patchStatus r «namespace» name status w = (.ok (), w') ∧
      w'.cluster = w.cluster.put (.ofResource r «namespace» name) (o.withStatus status) ∧ w.Advances [] w' := by
  let call := Call.patchStatus r «namespace» name status
  let c' := w.cluster.put (.ofResource r «namespace» name) (o.withStatus status)
  have hpatch : patchStatus r «namespace» name status w =
      (.ok (), { w.called call with cluster := c', clock := w.clock.tick }) := by
    refine (Computation.bind_ok (begin_calm calm call)).trans ?_
    simp only [change, called, Cluster.patchStatus_of_some ho, Except.map]
    rfl
  refine ⟨_, hpatch, rfl, ⟨⟨rfl, rfl, rfl, ⟨rfl, rfl, rfl, rfl⟩⟩, rfl, fun k hk => ?_⟩, Nat.le_succ _, [call], rfl, rfl⟩
  show (c'.object? k).isSome
  rw [Cluster.object?_put]
  split
  · rfl
  · exact hk

/-- From a calm world to the second one, the cluster is as before and nothing was applied. -/
def Looking (w w' : World) : Prop := w.Calm → w'.cluster = w.cluster ∧ w.Advances [] w'

instance : IsPreorder World Looking where
  refl w _ := ⟨rfl, .refl w⟩
  trans _ _ _ h₁ h₂ calm := by
    obtain ⟨hcluster, hadvances⟩ := h₁ calm
    obtain ⟨hcluster', hadvances'⟩ := h₂ (hadvances.calm calm)
    exact ⟨hcluster'.trans hcluster, hadvances.trans hadvances'⟩

/-- Time passes. -/
theorem Advances.timed {clock : Clock} (h : w.clock.readings ≤ clock.readings) : w.Advances [] { w with clock } where
  settings := ⟨rfl, rfl, rfl, .refl _⟩
  hidden := rfl
  present _ hk := hk
  clock := h
  calls := ⟨[], (List.append_nil _).symm, rfl⟩

end World

namespace Op
variable {ε ε' α β : Type} {x : Op ε α} {f : α → Op ε β} {w w' : World} {a : α}

/-- In a calm world the computation leaves the cluster alone and applies nothing. -/
def Looks (x : Op ε α) : Prop := Computation.Moves World.Looking x

/-- Having come to this result, the computation comes to it again in every world where all objects persist. -/
def Lasts (x : Op ε α) (a : α) : Prop := ∀ w w' : World, w.Calm → w.Persists w' → (x w).1 = .ok a → (x w').1 = .ok a

/-- The computation only looks at the world, and what it came to lasts. -/
structure Steady (x : Op ε α) : Prop where
  looks : x.Looks
  lasts : ∀ a, x.Lasts a

/-- What persists still does after each world was looked at. -/
theorem Looks.persists (hx : x.Looks) (calm : w.Calm) (h : w.Persists w') : (x w).2.Persists (x w').2 := by
  obtain ⟨hcluster, hadvances⟩ := hx w calm
  obtain ⟨hcluster', hadvances'⟩ := hx w' (h.settings.calm calm)
  refine h.between hadvances.toPersists hadvances'.toPersists fun k => ?_
  rw [hcluster, hcluster']
  exact h.present k

theorem steady_pure (a : α) : (pure a : Op ε α).Steady := ⟨.pure a, fun _ _ _ _ _ h => h⟩

theorem steady_throw (e : ε) : (throw e : Op ε α).Steady := ⟨.throw e, fun _ _ _ _ _ h => by cases h⟩

/-- In a sequence only those results of the first part have to last that the second part goes on with. -/
theorem steady_bind (hx : x.Looks) (hf : ∀ a, (f a).Steady)
    (hlasts : ∀ a, x.Lasts a ∨ ∀ w, ∃ e, (f a w).1 = .error e) : (x >>= f).Steady where
  looks := hx.bind fun a => (hf a).looks
  lasts := by
    intro b w w' calm hpersists h
    obtain ⟨a, w₁, hfirst, hrest⟩ := Computation.bind_eq_ok.mp (Prod.ext h rfl : (x >>= f) w = (.ok b, _))
    rcases hlasts a with hlast | hfails
    · have hagain : x w' = (.ok a, (x w').2) := Prod.ext (hlast w w' calm hpersists (by rw [hfirst])) rfl
      have hbetween := hx.persists calm hpersists
      obtain ⟨-, hadvances⟩ := hx w calm
      rw [hfirst] at hbetween hadvances
      rw [Computation.bind_ok hagain]
      exact (hf a).lasts b _ _ (hadvances.calm calm) hbetween (by rw [hrest])
    · obtain ⟨e, he⟩ := hfails w₁
      rw [hrest] at he
      cases he

theorem Steady.bind (hx : x.Steady) (hf : ∀ a, (f a).Steady) : (x >>= f).Steady :=
  steady_bind hx.looks hf fun a => .inl (hx.lasts a)

theorem Steady.mapError {g : ε → ε'} (hx : x.Steady) : (mapError g x).Steady where
  looks := hx.looks
  lasts := by
    intro a w w' calm hpersists h
    have hok : (x w).1 = .ok a := Except.mapError_eq_ok.mp h
    exact Except.mapError_eq_ok.mpr (hx.lasts a w w' calm hpersists hok)

/-- What a steady computation came to in one world it comes to in another one where all persists. -/
theorem Steady.again (hx : x.Steady) (calm : w.Calm) (hpersists : w.Persists w') {w₁ : World} (h : x w = (.ok a, w₁)) :
    ∃ w₁', x w' = (.ok a, w₁') ∧ w₁.Persists w₁' ∧ w₁'.cluster = w'.cluster ∧ w'.Advances [] w₁' := by
  have hlast := hx.lasts a w w' calm hpersists (by rw [h])
  have hbetween := hx.looks.persists calm hpersists
  rw [h] at hbetween
  exact ⟨(x w').2, Prod.ext hlast rfl, hbetween, hx.looks w' (hpersists.settings.calm calm)⟩

end Op

namespace World

theorem resolve_steady (g : Gvk) : (resolve g).Steady where
  looks := by
    intro w calm
    rw [resolve_calm calm]
    exact ⟨rfl, .called rfl w⟩
  lasts := by
    intro a w w' calm hpersists h
    rw [resolve_calm calm] at h
    rw [resolve_calm (hpersists.settings.calm calm)]
    show w'.cluster.resolve g = _
    rw [Cluster.resolve, hpersists.settings.cluster.served]
    exact h

theorem getObject_looks (r : ApiResource) («namespace» : Option String) (name : String) :
    (getObject r «namespace» name).Looks := by
  intro w calm
  rw [getObject_calm calm]
  exact ⟨rfl, .called rfl w⟩

end World

end PlatformOperator
