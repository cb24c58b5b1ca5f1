import Mathlib.Data.List.TakeWhile
import PlatformOperator.Catalog

/-! The catalog holds just the types that discovery advertises as deletable and that an access rule lets the
    operator delete. Rules speak about whole types: one that is restricted to some names counts like any other.
    They are asked about the group that a type tells of itself, if it tells one, though the type is addressed by
    the group of its list. -/

namespace PlatformOperator

/-! ### Group and version of a list -/

theorem Text.splitOnce?_eq_some {c : Char} {s : String} {before after : List Char} (h : c ∉ before)
    (hs : s.toList = before ++ c :: after) : splitOnce? c s = some (.ofList before, .ofList after) := by
  have hother : ∀ d ∈ before, (d != c) = true := fun d hd => bne_iff_ne.mpr fun heq => h (heq ▸ hd)
  rw [splitOnce?, hs, if_pos (List.mem_append_right _ List.mem_cons_self), List.takeWhile_append_of_pos hother,
    List.takeWhile_cons_of_neg (by simp), List.append_nil, List.dropWhile_append_of_pos hother,
    List.dropWhile_cons_of_neg (by simp), List.drop_one, List.tail_cons]

/-- The types of the list are of this group and version: its text joins the two by its first slash, or it is a
    version alone, which is one of the core group. -/
def DiscoveryList.IsOf (l : DiscoveryList) (group version : String) : Prop :=
  '/' ∉ group.toList ∧ l.groupVersion = group ++ "/" ++ version ∨
    '/' ∉ l.groupVersion.toList ∧ group = "" ∧ version = l.groupVersion

theorem DiscoveryList.isOf_iff {l : DiscoveryList} {group version : String} :
    l.IsOf group version ↔ Gvk.splitApiVersion l.groupVersion = (group, version) := by
  unfold Gvk.splitApiVersion
  constructor
  · rintro (⟨hgroup, htext⟩ | ⟨hplain, rfl, rfl⟩)
    · have hchars : l.groupVersion.toList = group.toList ++ '/' :: version.toList := by
        rw [htext, String.toList_append, String.toList_append, List.append_assoc]
        rfl
      rw [Text.splitOnce?_eq_some hgroup hchars, String.ofList_toList, String.ofList_toList, Option.getD_some]
    · rw [Text.splitOnce?, if_neg hplain, Option.getD_none]
  · intro h
    by_cases hslash : '/' ∈ l.groupVersion.toList
    · obtain ⟨before, after, hchars, hbefore⟩ := List.eq_append_cons_of_mem hslash
      rw [Text.splitOnce?_eq_some hbefore hchars, Option.getD_some] at h
      cases h
      refine .inl ⟨by rwa [String.toList_ofList], String.toList_inj.mp ?_⟩
      simp [hchars]
    · rw [Text.splitOnce?, if_neg hslash, Option.getD_none] at h
      cases h
      exact .inr ⟨hslash, rfl, rfl⟩

/-! ### What is advertised and permitted -/

/-- The list advertises `t` by one of its types, with the delete verb and as a type of its own: a name with a slash
    is part of another type. -/
structure DiscoveryList.Advertises (l : DiscoveryList) (d : DiscoveredType) (t : CatalogType) : Prop where
  place : l.IsOf t.group t.version
  kind : d.kind = t.kind
  plural : d.name = t.plural
  scope : d.namespaced = true ↔ t.scope = .namespaced
  whole : '/' ∉ t.plural.toList
  deletable : AccessRule.deleteVerb ∈ d.verbs

/-- The rule lets the operator delete objects of the types with this plural in this group. -/
structure AccessRule.Permits (rule : AccessRule) (group plural : String) : Prop where
  verb : deleteVerb ∈ rule.verbs ∨ anyVerb ∈ rule.verbs
  group : ∃ groups, rule.apiGroups = some groups ∧ (anyResource ∈ groups ∨ group ∈ groups)
  resource : ∃ resources, rule.resources = some resources ∧ (anyResource ∈ resources ∨ plural ∈ resources)

namespace AccessRule
variable {rule : AccessRule} {group name : String}

theorem any_getD_iff {s : Option (List String)} {any t : String} :
    (s.getD []).any (fun u => u == any || u == t) = true ↔ ∃ us, s = some us ∧ (any ∈ us ∨ t ∈ us) := by
  cases s with
  | none => simp
  | some us =>
    simp only [Option.getD_some, List.any_eq_true, Bool.or_eq_true, beq_iff_eq, Option.some.injEq, exists_eq_left']
    constructor
    · rintro ⟨u, hu, rfl | rfl⟩
      · exact .inl hu
      · exact .inr hu
    · rintro (hany | ht)
      · exact ⟨any, hany, .inl rfl⟩
      · exact ⟨t, ht, .inr rfl⟩

theorem grantsDelete_iff : rule.grantsDelete = true ↔ deleteVerb ∈ rule.verbs ∨ anyVerb ∈ rule.verbs := by
  refine (any_getD_iff (s := some rule.verbs)).trans ?_
  simp only [Option.some.injEq, exists_eq_left']

theorem permits_iff : rule.Permits group name ↔ (rule.grantsDelete && rule.covers group name) = true := by
  rw [Bool.and_eq_true, covers, Bool.and_eq_true, grantsDelete_iff, any_getD_iff, any_getD_iff]
  exact ⟨fun h => ⟨h.verb, h.group, h.resource⟩, fun ⟨hverb, hgroup, hresource⟩ => ⟨hverb, hgroup, hresource⟩⟩

instance : Decidable (rule.Permits group name) := decidable_of_iff _ permits_iff.symm

end AccessRule

theorem DiscoveredType.scope_eq_iff {d : DiscoveredType} {s : Scope} :
    d.scope = s ↔ (d.namespaced = true ↔ s = .namespaced) := by
  unfold scope
  cases d.namespaced <;> cases s <;> decide

theorem DiscoveredType.supportsDelete_iff {d : DiscoveredType} :
    d.supportsDelete = true ↔ '/' ∉ d.name.toList ∧ AccessRule.deleteVerb ∈ d.verbs := by
  rw [supportsDelete, Bool.and_eq_true, Bool.not_eq_true', List.contains_eq_mem, decide_eq_false_iff_not,
    List.contains_iff_mem]

namespace DiscoveryList
variable {l : DiscoveryList} {d : DiscoveredType} {t : CatalogType}

/-- A type of the list as the catalog keeps it. -/
def cataloged (l : DiscoveryList) (d : DiscoveredType) : CatalogType where
  group := (Gvk.splitApiVersion l.groupVersion).1
  version := (Gvk.splitApiVersion l.groupVersion).2
  kind := d.kind
  plural := d.name
  scope := d.scope

theorem advertises_iff : l.Advertises d t ↔ d.supportsDelete = true ∧ l.cataloged d = t := by
  rw [DiscoveredType.supportsDelete_iff]
  constructor
  · intro h
    refine ⟨⟨h.plural ▸ h.whole, h.deletable⟩, ?_⟩
    rw [cataloged, isOf_iff.mp h.place, h.kind, h.plural, DiscoveredType.scope_eq_iff.mpr h.scope]
  · rintro ⟨⟨hwhole, hverb⟩, rfl⟩
    exact ⟨isOf_iff.mpr rfl, rfl, rfl, DiscoveredType.scope_eq_iff.mp rfl, hwhole, hverb⟩

instance : Decidable (l.Advertises d t) := decidable_of_iff _ advertises_iff.symm

end DiscoveryList

namespace Catalog
variable {lists : List DiscoveryList} {rules : List AccessRule} {l : DiscoveryList} {t : CatalogType}

theorem mem_ofList : t ∈ ofList rules l ↔ ∃ d ∈ l.types, l.Advertises d t ∧
    ∃ rule ∈ rules, rule.Permits (d.ruleGroup t.group) t.plural := by
  have hof : ofList rules l = (l.types.filter fun d => d.supportsDelete && rules.any fun rule =>
      rule.grantsDelete && rule.covers (d.ruleGroup (l.cataloged d).group) (l.cataloged d).plural).map
        l.cataloged := rfl
  rw [hof]
  simp only [List.mem_map, List.mem_filter, Bool.and_eq_true (DiscoveredType.supportsDelete _), List.any_eq_true,
    ← AccessRule.permits_iff]
  constructor
  · rintro ⟨d, ⟨hd, hdelete, rule, hrule, hpermits⟩, rfl⟩
    exact ⟨d, hd, DiscoveryList.advertises_iff.mpr ⟨hdelete, rfl⟩, rule, hrule, hpermits⟩
  · rintro ⟨d, hd, hadvertises, rule, hrule, hpermits⟩
    obtain ⟨hdelete, rfl⟩ := DiscoveryList.advertises_iff.mp hadvertises
    exact ⟨d, ⟨hd, hdelete, rule, hrule, hpermits⟩, rfl⟩

/-- Order and repetition apart, the catalog is what the lists hold. -/
theorem mem_compute : t ∈ compute lists rules ↔ ∃ l ∈ lists, t ∈ ofList rules l := by
  rw [compute, List.mem_mergeSort, List.mem_eraseDups, List.mem_flatMap]

/-- A type is in the catalog just if a list of its group and version advertises it and a rule, be it for all
    objects or for some names only, permits to delete its plural in the group that rules are asked about. -/
theorem cataloged_iff_permitted (lists : List DiscoveryList) (rules : List AccessRule) (t : CatalogType) :
    t ∈ compute lists rules ↔ ∃ l ∈ lists, ∃ d ∈ l.types, l.Advertises d t ∧ ∃ rule ∈ rules, ∃ group,
      (d.group = some group ∧ group ≠ "" ∨ (d.group = none ∨ d.group = some "") ∧ group = t.group) ∧
        rule.Permits group t.plural := by
  have hasked (d : DiscoveredType) (group : String) : (d.group = some group ∧ group ≠ "" ∨
      (d.group = none ∨ d.group = some "") ∧ group = t.group) ↔ group = d.ruleGroup t.group := by
    unfold DiscoveredType.ruleGroup
    split <;> grind
  simp only [mem_compute, mem_ofList, hasked, exists_eq_left]

/-! ### Restricted rules and types with a group of their own -/

/-- A list advertises the type, and a rule that is not restricted to names permits to delete it in the group that it
    is addressed by. -/
def PermittedAsAddressed (lists : List DiscoveryList) (rules : List AccessRule) (t : CatalogType) : Prop :=
  ∃ l ∈ lists, ∃ d ∈ l.types, l.Advertises d t ∧ ∃ rule ∈ rules,
    (rule.resourceNames = none ∨ rule.resourceNames = some []) ∧ rule.Permits t.group t.plural

instance : Decidable (PermittedAsAddressed lists rules t) :=
  inferInstanceAs (Decidable (∃ l ∈ lists, ∃ d ∈ l.types, l.Advertises d t ∧ ∃ rule ∈ rules,
    (rule.resourceNames = none ∨ rule.resourceNames = some []) ∧ rule.Permits t.group t.plural))

namespace Sample

def discovered (name kind : String) (group : Option String) : DiscoveredType :=
  ⟨name, kind, true, ["delete"], group, none⟩

def core : DiscoveryList :=
  ⟨"v1", [discovered "configmaps" "ConfigMap" none, discovered "scales" "Scale" (some "autoscaling"),
    discovered "jobs" "Job" (some "batch")]⟩

def cataloged (plural kind : String) : CatalogType := ⟨"", "v1", kind, plural, .namespaced⟩

def deleting (group plural : String) (names : Option (List String)) : AccessRule :=
  ⟨["delete"], some [group], some [plural], names⟩

def granted : List AccessRule :=
  [deleting "" "configmaps" (some ["settings"]), deleting "autoscaling" "scales" none, deleting "" "jobs" none]

end Sample

open Sample in
/-- Maps are in the catalog though only one of them may be deleted, scales though they may be deleted in another
    group than they are addressed by, and jobs are not though they may be deleted there. -/
theorem cataloged_not_as_addressed :
    (cataloged "configmaps" "ConfigMap" ∈ compute [core] granted ∧
      ¬PermittedAsAddressed [core] granted (cataloged "configmaps" "ConfigMap")) ∧
    (cataloged "scales" "Scale" ∈ compute [core] granted ∧
      ¬PermittedAsAddressed [core] granted (cataloged "scales" "Scale")) ∧
    cataloged "jobs" "Job" ∉ compute [core] granted ∧
      PermittedAsAddressed [core] granted (cataloged "jobs" "Job") := by
  simp only [mem_compute]
  decide +kernel

end Catalog
end PlatformOperator
