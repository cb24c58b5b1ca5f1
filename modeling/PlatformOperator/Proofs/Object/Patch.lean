import PlatformOperator.Object
import PlatformOperator.Proofs.Json.Patch

/-! What metadata keep when an object is written, patched and read again: what the patch does not name. -/

namespace PlatformOperator
open Json

theorem OwnerReference.ofJson?_toJson (o : OwnerReference) : ofJson? o.toJson = some o := by
  have hnames : ["apiVersion", "blockOwnerDeletion", "controller", "kind", "name", "uid"].Nodup := by decide
  have hversion : optional o.toJson.members "apiVersion" str? = some (some o.apiVersion) :=
    optional_str (get?_ofPresent hnames (by simp))
  have hblock : optional o.toJson.members "blockOwnerDeletion" bool? = some o.blockOwnerDeletion :=
    optional_bool (get?_ofPresent hnames (by simp))
  have hcontroller : optional o.toJson.members "controller" bool? = some o.controller :=
    optional_bool (get?_ofPresent hnames (by simp))
  have hkind : optional o.toJson.members "kind" str? = some (some o.kind) :=
    optional_str (get?_ofPresent hnames (by simp))
  have hname : optional o.toJson.members "name" str? = some (some o.name) :=
    optional_str (get?_ofPresent hnames (by simp))
  have huid : optional o.toJson.members "uid" str? = some (some o.uid) :=
    optional_str (get?_ofPresent hnames (by simp))
  show ofJson? (.obj o.toJson.members) = some o
  simp [ofJson?, hversion, hblock, hcontroller, hkind, hname, huid]

namespace ObjectMeta
variable {m m' : ObjectMeta} {ms q : List (String × Json)} {named : String → Prop}

theorem memberNames_nodup : memberNames.Nodup := by decide

/-- How the members of metadata read. -/
structure Reads (ms : Dict Json) (m : ObjectMeta) : Prop where
  annotations : optional ms "annotations" (dict? str?) = some m.annotations
  creationTimestamp : optional ms "creationTimestamp" time? = some m.creationTimestamp
  deletionGracePeriodSeconds :
    optional ms "deletionGracePeriodSeconds" (signed? 64) = some m.deletionGracePeriodSeconds
  deletionTimestamp : optional ms "deletionTimestamp" time? = some m.deletionTimestamp
  finalizers : optional ms "finalizers" (list? str?) = some m.finalizers
  generateName : optional ms "generateName" str? = some m.generateName
  generation : optional ms "generation" (signed? 64) = some m.generation
  labels : optional ms "labels" (dict? str?) = some m.labels
  managedFields : optional ms "managedFields" (list? ManagedFields.ofJson?) = some m.managedFields
  name : optional ms "name" str? = some m.name
  «namespace» : optional ms "namespace" str? = some m.namespace
  ownerReferences : optional ms "ownerReferences" (list? OwnerReference.ofJson?) = some m.ownerReferences
  resourceVersion : optional ms "resourceVersion" str? = some m.resourceVersion
  selfLink : optional ms "selfLink" str? = some m.selfLink
  uid : optional ms "uid" str? = some m.uid

theorem ofJson?_eq_some : ofJson? (.obj ms) = some m ↔ Reads ms m := by
  constructor
  · intro h
    -- The outermost of the nested binds has to go first: their congruence lemmas make `simp` explode.
    unfold ofJson? at h
    dsimp only [bind, pure] at h
    simp only [↓Option.bind_eq_some_iff, Option.some.injEq] at h
    obtain ⟨_, h₁, _, h₂, _, h₃, _, h₄, _, h₅, _, h₆, _, h₇, _, h₈, _, h₉, _, h₁₀, _, h₁₁, _, h₁₂, _, h₁₃, _, h₁₄, _,
      h₁₅, rfl⟩ := h
    exact ⟨h₁, h₂, h₃, h₄, h₅, h₆, h₇, h₈, h₉, h₁₀, h₁₁, h₁₂, h₁₃, h₁₄, h₁₅⟩
  · intro h
    unfold ofJson?
    dsimp only [bind, pure]
    simp only [↓h.annotations, ↓h.creationTimestamp, ↓h.deletionGracePeriodSeconds, ↓h.deletionTimestamp,
      ↓h.finalizers, ↓h.generateName, ↓h.generation, ↓h.labels, ↓h.managedFields, ↓h.name, ↓h.namespace,
      ↓h.ownerReferences, ↓h.resourceVersion, ↓h.selfLink, ↓h.uid, ↓Option.bind_some]

/-- `m'` has from `m` what is not named. -/
structure Keeps (named : String → Prop) (m m' : ObjectMeta) : Prop where
  deletionTimestamp : ¬named "deletionTimestamp" → m'.isTerminating = m.isTerminating
  finalizers : ¬named "finalizers" → m'.finalizers = m.finalizers
  generateName : ¬named "generateName" → m'.generateName = m.generateName
  name : ¬named "name" → m'.name = m.name
  «namespace» : ¬named "namespace" → m'.namespace = m.namespace
  ownerReferences : ¬named "ownerReferences" → m'.ownerReferences = m.ownerReferences
  uid : ¬named "uid" → m'.uid = m.uid

theorem Keeps.widen {named' : String → Prop} (h : Keeps named m m') (hsub : ∀ k, named k → named' k) :
    Keeps named' m m' where
  deletionTimestamp hk := h.deletionTimestamp fun hn => hk (hsub _ hn)
  finalizers hk := h.finalizers fun hn => hk (hsub _ hn)
  generateName hk := h.generateName fun hn => hk (hsub _ hn)
  name hk := h.name fun hn => hk (hsub _ hn)
  «namespace» hk := h.namespace fun hn => hk (hsub _ hn)
  ownerReferences hk := h.ownerReferences fun hn => hk (hsub _ hn)
  uid hk := h.uid fun hn => hk (hsub _ hn)

theorem Reads.keeps (h : Reads ms m') (hms : ∀ k, ¬named k → Dict.get? ms k = m.toJson.members.get? k) :
    Keeps named m m' where
  deletionTimestamp hk := by
    have hread := h.deletionTimestamp
    have hget : Dict.get? ms "deletionTimestamp" = m.deletionTimestamp.map fun t => .str t.text :=
      (hms _ hk).trans (get?_ofPresent memberNames_nodup (by simp))
    unfold isTerminating
    cases hm : m.deletionTimestamp with
    | none =>
      rw [hm] at hget
      rw [optional_of_none hget] at hread
      rw [← Option.some.inj hread]
    | some t =>
      rw [hm] at hget
      rw [optional_of_some hget (by simp)] at hread
      obtain ⟨u, -, hu⟩ := Option.map_eq_some_iff.mp hread
      rw [← hu]
      rfl
  finalizers hk := by
    have hwritten : optional ms "finalizers" (list? str?) = some m.finalizers :=
      optional_of_map ((hms _ hk).trans (get?_ofPresent memberNames_nodup (by simp))) (fun _ => by simp)
        list?_str
    exact Option.some.inj (h.finalizers.symm.trans hwritten)
  generateName hk :=
    Option.some.inj (h.generateName.symm.trans
      (optional_str ((hms _ hk).trans (get?_ofPresent memberNames_nodup (by simp)))))
  name hk :=
    Option.some.inj (h.name.symm.trans (optional_str ((hms _ hk).trans (get?_ofPresent memberNames_nodup (by simp)))))
  «namespace» hk :=
    Option.some.inj (h.namespace.symm.trans
      (optional_str ((hms _ hk).trans (get?_ofPresent memberNames_nodup (by simp)))))
  ownerReferences hk := by
    have hwritten : optional ms "ownerReferences" (list? OwnerReference.ofJson?) = some m.ownerReferences :=
      optional_of_map ((hms _ hk).trans (get?_ofPresent memberNames_nodup (by simp))) (fun _ => by simp)
        (list?_map OwnerReference.ofJson?_toJson)
    exact Option.some.inj (h.ownerReferences.symm.trans hwritten)
  uid hk :=
    Option.some.inj (h.uid.symm.trans (optional_str ((hms _ hk).trans (get?_ofPresent memberNames_nodup (by simp)))))

/-- Metadata that are written and read again lose none of this. -/
theorem keeps_of_ofJson? (h : ofJson? m.toJson = some m') : Keeps (fun _ => False) m m' :=
  (ofJson?_eq_some.mp h).keeps fun _ _ => rfl

/-- Patched metadata keep what the patch does not name. -/
theorem keeps_of_merge (h : ofJson? (.obj (mergeMembers m.toJson.members q)) = some m') :
    Keeps (fun k => Dict.get? q k ≠ none) m m' :=
  (ofJson?_eq_some.mp h).keeps fun _ hk => get?_mergeMembers_of_not_mem (Dict.get?_eq_none_iff.mp (not_not.mp hk))

theorem finalizers_of_merge {fs : List String}
    (h : ofJson? (.obj (mergeMembers m.toJson.members [("finalizers", .arr (fs.map .str))])) = some m') :
    m'.finalizers = some fs := by
  have hget : Dict.get? (mergeMembers m.toJson.members [("finalizers", .arr (fs.map .str))]) "finalizers" =
      some (.arr (fs.map .str)) := by
    refine (get?_mergeMembers_of_mem (by simp) List.mem_cons_self (by simp)).trans ?_
    simp [merge]
  have hread := (ofJson?_eq_some.mp h).finalizers
  rw [optional_of_some hget (by simp), list?_str] at hread
  exact (Option.some.inj hread).symm

end ObjectMeta

namespace Object
variable {o o' : Object} {ps q : List (String × Json)}

theorem get?_toJson_metadata (o : Object) : o.toJson.members.get? "metadata" = some o.metadata.toJson := by
  show Dict.get? (Dict.ofList (_ ++ [("metadata", o.metadata.toJson)])) "metadata" = _
  rw [Dict.ofList, List.foldl_append]
  exact (Dict.get?_insert _ _ _ _).trans (if_pos rfl)

theorem ofMembers?_metadata {ms : List (String × Json)} {j : Json} (h : ofMembers? ms = some o)
    (hj : Dict.get? ms "metadata" = some j) : ObjectMeta.ofJson? j = some o.metadata := by
  have hj : ms.lookup "metadata" = some j := hj
  simp only [ofMembers?, hj, bind, Option.bind_eq_some_iff, pure, Option.some.injEq] at h
  obtain ⟨m, hm, rfl⟩ := h
  exact hm

/-- Merging a patch into an object merges what it says of the metadata into those. -/
theorem metadata_of_merge (h : ofJson? (o.toJson.merge (.obj ps)) = some o') (hnodup : (ps.map (·.1)).Nodup)
    (hq : ("metadata", .obj q) ∈ ps) :
    ObjectMeta.ofJson? (.obj (mergeMembers o.metadata.toJson.members q)) = some o'.metadata := by
  rw [merge] at h
  refine ofMembers?_metadata h ?_
  rw [get?_mergeMembers_of_mem hnodup hq (by simp), get?_toJson_metadata, Option.getD_some, merge]

/-- Merging one object into another keeps the metadata that the first one does not name. -/
theorem keeps_of_merge {x : Object} (h : ofJson? (o.toJson.merge x.toJson) = some o') :
    ObjectMeta.Keeps (fun k => x.metadata.toJson.members.get? k ≠ none) o.metadata o'.metadata := by
  have hmem : ("metadata", Json.obj x.metadata.toJson.members) ∈ x.toJson.members :=
    Dict.mem_of_get? (get?_toJson_metadata x)
  exact ObjectMeta.keeps_of_merge (metadata_of_merge h (Dict.nodup_ofList _) hmem)

/-- Merging an object that names no owners leaves those of the other one. -/
theorem owners_of_merge {x : Object} (h : ofJson? (o.toJson.merge x.toJson) = some o')
    (hx : x.metadata.ownerReferences = none) : o'.metadata.owners = o.metadata.owners := by
  have hmember : x.metadata.toJson.members.get? "ownerReferences" =
      x.metadata.ownerReferences.map fun os => .arr (os.map OwnerReference.toJson) :=
    get?_ofPresent ObjectMeta.memberNames_nodup (by simp)
  rw [hx, Option.map_none] at hmember
  rw [ObjectMeta.owners, (keeps_of_merge h).ownerReferences (not_not.mpr hmember), ObjectMeta.owners]

/-- Merging an object without UID leaves that of the other one. -/
theorem uid_of_merge {x : Object} (h : ofJson? (o.toJson.merge x.toJson) = some o') (hx : x.metadata.uid = none) :
    o'.metadata.uid = o.metadata.uid := by
  have hmember : x.metadata.toJson.members.get? "uid" = x.metadata.uid.map .str :=
    get?_ofPresent ObjectMeta.memberNames_nodup (by simp)
  rw [hx, Option.map_none] at hmember
  exact (keeps_of_merge h).uid (not_not.mpr hmember)

end Object
end PlatformOperator
