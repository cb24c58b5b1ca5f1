import PlatformOperator.Proofs.Action.Deploy
import PlatformOperator.Proofs.Action.Selection

/-! What the collector reads from an object that was rendered: whose type owns it, and of which kind it is
    part. -/

namespace PlatformOperator

/-- Group, version and kind of a type are names: neither group nor version has a slash, and the kind can
    be the value of a label. -/
structure ApiResource.WellNamed (r : ApiResource) : Prop where
  group : '/' ∉ r.group.toList
  version : '/' ∉ r.version.toList
  kind : ∀ c ∈ (Text.lower r.kind).toList, Selector.isNameChar c = true

/-- The group that an API version names is that of the type. -/
theorem ApiResource.group_apiVersion {r : ApiResource} (hgroup : '/' ∉ r.group.toList)
    (hversion : r.group = "" → '/' ∉ r.version.toList) :
    ((Text.splitOnce? '/' r.apiVersion).map (·.1)).getD "" = r.group := by
  show ((Text.splitOnce? '/' (if r.group = "" then r.version else r.group ++ "/" ++ r.version)).map (·.1)).getD "" = _
  split
  · next hcore =>
    rw [Text.splitOnce?, if_neg (hversion hcore), hcore]
    rfl
  · have before : ∀ c ∈ r.group.toList, (c != '/') = true := fun c hc => bne_iff_ne.mpr fun heq => hgroup (heq ▸ hc)
    have htext : (r.group ++ "/" ++ r.version).toList = r.group.toList ++ '/' :: r.version.toList := by
      rw [String.toList_append, String.toList_append, List.append_assoc]
      rfl
    rw [Text.splitOnce?, htext, if_pos (List.mem_append_right _ List.mem_cons_self),
      List.takeWhile_append_of_pos before, List.takeWhile_cons_of_neg (by decide), List.append_nil]
    exact String.ofList_toList

/-- What has the instance as an owner is owned by its type. -/
theorem GarbageCollector.isOwnedByType_of_mem {i : Instance} {owner : OwnerReference} {o : Object}
    (howner : i.controllerReference? = some owner) (hmem : owner ∈ o.metadata.owners)
    (hgroup : '/' ∉ i.resource.group.toList) (hversion : i.resource.group = "" → '/' ∉ i.resource.version.toList) :
    isOwnedByType o i.resource.group i.resource.kind = true := by
  obtain ⟨hapiVersion, hkind, -⟩ := Instance.controllerReference?_eq_some howner
  refine List.any_eq_true.mpr ⟨owner, hmem, ?_⟩
  rw [hapiVersion, hkind, ApiResource.group_apiVersion hgroup hversion]
  simp only [beq_self_eq_true, Bool.and_self]

/-- A collector without own labels selects what is part of instances of the kind. -/
theorem GarbageCollector.plain_selects_iff {name : String} {engine : Engine} {subject : Instance} {o : Object}
    (names : subject.resource.WellNamed) :
    Selector.selects ((plain name engine).selector subject) (o.metadata.labels.getD []) = true ↔
      o.metadata.label? Marks.partOf = some subject.label :=
  selects_partOf_iff rfl (Selector.literal_of_isNameChar names.kind)

namespace Deploy.Rendered

section
variable {q : Request} {owner : OwnerReference} {m o : Object} {k : Key}

/-- The instance owns what is rendered for it. -/
theorem isOwnedByType (h : Rendered q owner m k o) (howner : q.subject.controllerReference? = some owner)
    (names : q.subject.resource.WellNamed) :
    GarbageCollector.isOwnedByType o q.subject.resource.group q.subject.resource.kind = true := by
  refine GarbageCollector.isOwnedByType_of_mem howner ?_ names.group fun _ => names.version
  rw [ObjectMeta.owners, h.owners]
  exact List.mem_append_right _ (List.mem_singleton_self owner)

/-- It is part of the kind of the instance, unless its manifest says otherwise. -/
theorem label?_partOf (h : Rendered q owner m k o) :
    o.metadata.label? Marks.partOf = some ((m.metadata.label? Marks.partOf).getD q.subject.label) := by
  rw [ObjectMeta.label?, h.labels]
  exact label?_stamp_partOf q m

end
end Deploy.Rendered

/-! ### Reconciliations of dashboards -/

namespace Sample

theorem dashboards_wellNamed : Instance.dashboards.WellNamed :=
  ⟨by decide, by decide, List.all_eq_true.mp (by decide +kernel)⟩

/-- A full render of configuration maps for a dashboard. -/
def render (name : String) (generation : Int) (maps : List String) : Request :=
  request (dashboard name generation) (maps.map configMap)

def deployed (w : World) (q : Request) : Run := (Action.deploy.run ⟨w, q⟩).2

def collected (run : Run) : Run := ((Action.collect collector).run run).2

end Sample
end PlatformOperator
