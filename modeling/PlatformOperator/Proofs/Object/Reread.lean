import PlatformOperator.Instance
import PlatformOperator.Proofs.Object.Patch
import PlatformOperator.Proofs.Time

/-! Objects and instances that are read again: what was written and read once reads the same ever after, and a patch
    of the finalizers or a new status changes nothing else of what is read. -/

namespace PlatformOperator
open Json

/-- A time that was read reads the same once it is written. -/
theorem Timestamp.time?_again {t u : Timestamp} (h : Json.time? (.str t.text) = some u) :
    Json.time? (.str u.text) = some u := by
  have hdated : t.Dated := dated_of_ofText? h
  cases (ofText?_text hdated).symm.trans h
  exact ofText?_text hdated

theorem ManagedFields.ofJson?_again {f g : ManagedFields} (h : ofJson? f.toJson = some g) :
    ofJson? g.toJson = some g := by
  have hnames : ["apiVersion", "fieldsType", "fieldsV1", "manager", "operation", "subresource", "time"].Nodup := by
    decide
  have hmembers : ofJson? (.obj f.toJson.members) = some g := h
  unfold ofJson? at hmembers
  dsimp only [bind, pure] at hmembers
  simp only [↓Option.bind_eq_some_iff, Option.some.injEq] at hmembers
  obtain ⟨_, -, _, -, _, hfields, _, -, _, -, _, -, _, htime, hg⟩ := hmembers
  have hversion : optional g.toJson.members "apiVersion" str? = some g.apiVersion :=
    optional_str (get?_ofPresent hnames (by simp))
  have htype : optional g.toJson.members "fieldsType" str? = some g.fieldsType :=
    optional_str (get?_ofPresent hnames (by simp))
  have hfields : optional g.toJson.members "fieldsV1" some = some g.fieldsV1 := by
    have hwritten (f : ManagedFields) : f.toJson.members.get? "fieldsV1" = f.fieldsV1.map id :=
      get?_ofPresent hnames (by simp)
    have hread : optional f.toJson.members "fieldsV1" some = some g.fieldsV1 := hg ▸ hfields
    exact optional_again (hwritten f) hread (hwritten g) fun _ _ hx hy => ⟨Option.some.inj hy ▸ hx, rfl⟩
  have hmanager : optional g.toJson.members "manager" str? = some g.manager :=
    optional_str (get?_ofPresent hnames (by simp))
  have hoperation : optional g.toJson.members "operation" str? = some g.operation :=
    optional_str (get?_ofPresent hnames (by simp))
  have hsubresource : optional g.toJson.members "subresource" str? = some g.subresource :=
    optional_str (get?_ofPresent hnames (by simp))
  have htime : optional g.toJson.members "time" time? = some g.time := by
    have hwritten (f : ManagedFields) : f.toJson.members.get? "time" = f.time.map fun t => .str t.text :=
      get?_ofPresent hnames (by simp)
    have hread : optional f.toJson.members "time" time? = some g.time := hg ▸ htime
    exact optional_again (hwritten f) hread (hwritten g) fun _ _ _ hy => ⟨by simp, Timestamp.time?_again hy⟩
  show ofJson? (.obj g.toJson.members) = some g
  simp [ofJson?, hversion, htype, hfields, hmanager, hoperation, hsubresource, htime]

namespace ObjectMeta
variable {m m' : ObjectMeta} {ms ms' : Dict Json} {fs : List String}

/-- Metadata that were written and read once read the same ever after, with these or other finalizers. -/
theorem Reads.again (h : Reads m.toJson.members m') (fs : Option (List String)) :
    Reads { m' with finalizers := fs }.toJson.members { m' with finalizers := fs } where
  annotations := optional_of_map (get?_ofPresent memberNames_nodup (by simp)) (fun _ => by simp [ofDict]) dict?_ofDict
  creationTimestamp := by
    have hwritten (m : ObjectMeta) : m.toJson.members.get? "creationTimestamp" =
        m.creationTimestamp.map fun t => .str t.text := get?_ofPresent memberNames_nodup (by simp)
    exact optional_again (hwritten m) h.creationTimestamp (hwritten _) fun _ _ _ hy =>
      ⟨by simp, Timestamp.time?_again hy⟩
  deletionGracePeriodSeconds := by
    have hwritten (m : ObjectMeta) : m.toJson.members.get? "deletionGracePeriodSeconds" =
        m.deletionGracePeriodSeconds.map .int := get?_ofPresent memberNames_nodup (by simp)
    exact optional_again (hwritten m) h.deletionGracePeriodSeconds (hwritten _) fun _ _ _ hy =>
      ⟨by simp, signed?_again hy⟩
  deletionTimestamp := by
    have hwritten (m : ObjectMeta) : m.toJson.members.get? "deletionTimestamp" =
        m.deletionTimestamp.map fun t => .str t.text := get?_ofPresent memberNames_nodup (by simp)
    exact optional_again (hwritten m) h.deletionTimestamp (hwritten _) fun _ _ _ hy =>
      ⟨by simp, Timestamp.time?_again hy⟩
  finalizers := optional_of_map (get?_ofPresent memberNames_nodup (by simp)) (fun _ => by simp) list?_str
  generateName := optional_str (get?_ofPresent memberNames_nodup (by simp))
  generation := by
    have hwritten (m : ObjectMeta) : m.toJson.members.get? "generation" = m.generation.map .int :=
      get?_ofPresent memberNames_nodup (by simp)
    exact optional_again (hwritten m) h.generation (hwritten _) fun _ _ _ hy => ⟨by simp, signed?_again hy⟩
  labels := optional_of_map (get?_ofPresent memberNames_nodup (by simp)) (fun _ => by simp [ofDict]) dict?_ofDict
  managedFields := by
    have hwritten (m : ObjectMeta) : m.toJson.members.get? "managedFields" =
        m.managedFields.map fun fs => .arr (fs.map ManagedFields.toJson) := get?_ofPresent memberNames_nodup (by simp)
    exact optional_again (hwritten m) h.managedFields (hwritten _) fun _ _ _ hy =>
      ⟨by simp, list?_again (fun _ _ => ManagedFields.ofJson?_again) hy⟩
  name := optional_str (get?_ofPresent memberNames_nodup (by simp))
  «namespace» := optional_str (get?_ofPresent memberNames_nodup (by simp))
  ownerReferences := optional_of_map (get?_ofPresent memberNames_nodup (by simp)) (fun _ => by simp)
    (list?_map OwnerReference.ofJson?_toJson)
  resourceVersion := optional_str (get?_ofPresent memberNames_nodup (by simp))
  selfLink := optional_str (get?_ofPresent memberNames_nodup (by simp))
  uid := optional_str (get?_ofPresent memberNames_nodup (by simp))

theorem Reads.congr (h : Reads ms m) (hms : ∀ k, k ≠ "finalizers" → Dict.get? ms' k = Dict.get? ms k)
    (hfs : Dict.get? ms' "finalizers" = some (.arr (fs.map .str))) :
    Reads ms' { m with finalizers := some fs } := by
  have hsame {α : Type} {k : String} (hk : k ≠ "finalizers") (read : Json → Option α) :
      Json.optional ms' k read = Json.optional ms k read := optional_congr (hms k hk) read
  exact {
    annotations := (hsame (by decide) _).trans h.annotations
    creationTimestamp := (hsame (by decide) _).trans h.creationTimestamp
    deletionGracePeriodSeconds := (hsame (by decide) _).trans h.deletionGracePeriodSeconds
    deletionTimestamp := (hsame (by decide) _).trans h.deletionTimestamp
    finalizers := by rw [optional_of_some hfs (by simp), list?_str, Option.map_some]
    generateName := (hsame (by decide) _).trans h.generateName
    generation := (hsame (by decide) _).trans h.generation
    labels := (hsame (by decide) _).trans h.labels
    managedFields := (hsame (by decide) _).trans h.managedFields
    name := (hsame (by decide) _).trans h.name
    «namespace» := (hsame (by decide) _).trans h.namespace
    ownerReferences := (hsame (by decide) _).trans h.ownerReferences
    resourceVersion := (hsame (by decide) _).trans h.resourceVersion
    selfLink := (hsame (by decide) _).trans h.selfLink
    uid := (hsame (by decide) _).trans h.uid }

end ObjectMeta

namespace Object
variable {o o' : Object} {k : String} {ms : List (String × Json)} {apiVersion kind : Option String}

/-- A member that is neither metadata nor type information is written as it is. -/
theorem get?_toJson (hcontent : o.content.Ascending) (hk : k ∉ ["apiVersion", "kind", "metadata"]) :
    o.toJson.members.get? k = o.content.get? k := by
  simp only [List.mem_cons, List.not_mem_nil, or_false, not_or] at hk
  obtain ⟨hversion, hkind, hmetadata⟩ := hk
  have hwritten : Dict.get? (Dict.ofList o.content) k = o.content.get? k := by
    rw [Dict.ofList, Dict.get?_foldl_insert k _ _ (Dict.nodup_of_ascending hcontent), Dict.get?_nil, Option.or_none]
  show Dict.get? (Dict.ofList (_ ++ [("metadata", o.metadata.toJson)])) k = _
  rw [Dict.ofList, List.foldl_append, List.foldl_append]
  refine (Dict.get?_insert _ _ _ _).trans ?_
  rw [if_neg hmetadata, ← hwritten]
  cases o.types with
  | none => rfl
  | some t =>
    refine (Dict.get?_insert _ _ _ _).trans ?_
    rw [if_neg hkind]
    refine (Dict.get?_insert _ _ _ _).trans ?_
    rw [if_neg hversion]
    rfl

theorem takeTypes_sublist : ∀ {ms : List (String × Json)} {apiVersion kind : Option String},
    (takeTypes ms apiVersion kind).2.Sublist ms
  | [], some _, some _ => .slnil
  | [], none, _ => .slnil
  | [], some _, none => .slnil
  | (name, value) :: ms, apiVersion, kind => by
    unfold takeTypes
    split
    · split
      · split
        · exact takeTypes_sublist.cons _
        · exact takeTypes_sublist.cons _
      · exact List.sublist_cons_self _ _
    · exact takeTypes_sublist.cons_cons _

theorem get?_takeTypes (hversion : k ≠ "apiVersion") (hkind : k ≠ "kind") :
    ∀ {ms : List (String × Json)} {apiVersion kind : Option String},
      Dict.get? (takeTypes ms apiVersion kind).2 k = Dict.get? ms k
  | [], some _, some _ => rfl
  | [], none, _ => rfl
  | [], some _, none => rfl
  | (name, value) :: ms, apiVersion, kind => by
    unfold takeTypes
    split
    · rename_i hname
      have hne : k ≠ name := by
        rintro rfl
        exact hname.elim hversion hkind
      rw [Dict.get?_cons, if_neg hne]
      split
      · split
        · exact get?_takeTypes hversion hkind
        · exact get?_takeTypes hversion hkind
      · rfl
    · rw [Dict.get?_cons, Dict.get?_cons, get?_takeTypes hversion hkind]

theorem ofMembers?_content (h : ofMembers? ms = some o) (hms : Dict.Ascending ms) :
    o.content.Ascending ∧
      ∀ k, k ∉ ["apiVersion", "kind", "metadata"] → o.content.get? k = Dict.get? ms k := by
  have hcontent : o.content = Dict.ofList (takeTypes (ms.filter (·.1 != "metadata")) none none).2 := by
    dsimp only [ofMembers?, bind, pure] at h
    split at h <;>
      · obtain ⟨_, -, h⟩ := Option.bind_eq_some_iff.mp h
        cases h
        rfl
  rw [hcontent]
  refine ⟨Dict.ascending_foldl _ .nil, fun k hk => ?_⟩
  simp only [List.mem_cons, List.not_mem_nil, or_false, not_or] at hk
  obtain ⟨hversion, hkind, hmetadata⟩ := hk
  have hfiltered : Dict.Ascending (ms.filter (·.1 != "metadata")) := hms.filter _
  rw [Dict.ofList, Dict.get?_foldl_insert k _ _ (Dict.nodup_of_ascending (hfiltered.sublist takeTypes_sublist)),
    Dict.get?_nil, Option.or_none, get?_takeTypes hversion hkind]
  exact (Dict.get?_erase _ _ _).trans (if_neg hmetadata)

end Object

namespace Instance
variable {t : ApiResource} {o o' : Object} {i : Instance} {fs : List String}

/-- The development flags in a spec. -/
def specFlags? (spec : Json) : Option (Option DevFlags) := do
  Json.optional (← spec.fields? ["devFlags"]) "devFlags" DevFlags.ofJson?

/-- The instance reads from the members of the object. -/
structure ReadsFrom (t : ApiResource) (o : Object) (i : Instance) : Prop where
  resource : i.resource = t
  metadata : ObjectMeta.Reads o.metadata.toJson.members i.metadata
  spec : (o.content.get? "spec").bind specFlags? = some i.devFlags
  status : Json.optional o.content "status" PlatformStatus.ofJson? = some i.status

theorem ofJson?_eq_some (hcontent : o.content.Ascending) :
    ofJson? t o.toJson = some i ↔ ReadsFrom t o i := by
  have hspec : o.toJson.members.get? "spec" = o.content.get? "spec" := Object.get?_toJson hcontent (by decide)
  have hstatus : Json.optional o.toJson.members "status" PlatformStatus.ofJson? =
      Json.optional o.content "status" PlatformStatus.ofJson? :=
    optional_congr (Object.get?_toJson hcontent (by decide)) _
  have hmetadata : Json.required o.toJson.members "metadata" ObjectMeta.ofJson? =
      ObjectMeta.ofJson? (.obj o.metadata.toJson.members) := by
    rw [Json.required, Object.get?_toJson_metadata, Option.bind_some]
    rfl
  have hread : ofJson? t o.toJson = ((ObjectMeta.ofJson? (.obj o.metadata.toJson.members)).bind fun m =>
      ((o.content.get? "spec").bind specFlags?).bind fun flags =>
        (Json.optional o.content "status" PlatformStatus.ofJson?).bind fun status => some ⟨t, m, flags, status⟩) := by
    rw [← hmetadata, ← hspec, ← hstatus]
    rfl
  rw [hread]
  constructor
  · intro h
    obtain ⟨m, hm, h⟩ := Option.bind_eq_some_iff.mp h
    obtain ⟨flags, hflags, h⟩ := Option.bind_eq_some_iff.mp h
    obtain ⟨status, hstatus, h⟩ := Option.bind_eq_some_iff.mp h
    cases h
    exact ⟨rfl, ObjectMeta.ofJson?_eq_some.mp hm, hflags, hstatus⟩
  · rintro ⟨rfl, hm, hflags, hstatus⟩
    rw [ObjectMeta.ofJson?_eq_some.mpr hm, Option.bind_some, hflags, Option.bind_some, hstatus, Option.bind_some]

/-- A first or new status reads with the rest of the instance as before. -/
theorem ReadsFrom.withStatus {j : Json} {s : PlatformStatus} (h : ReadsFrom t o i)
    (hj : PlatformStatus.ofJson? j = some s) :
    ReadsFrom t { o with content := Dict.insert "status" j o.content } { i with status := some s } where
  resource := h.resource
  metadata := h.metadata
  spec := by
    show (Dict.get? (Dict.insert "status" j o.content) "spec").bind specFlags? = _
    rw [Dict.get?_insert, if_neg (by decide)]
    exact h.spec
  status := by
    have hnull : j ≠ .null := by
      rintro rfl
      cases hj
    rw [optional_of_some ((Dict.get?_insert _ _ _ _).trans (if_pos rfl)) hnull, hj, Option.map_some]

/-- A patch of the finalizers leaves the rest of the instance as it reads. -/
theorem ReadsFrom.withFinalizers (h : ReadsFrom t o i) (hcontent : o.content.Ascending)
    (fs : List String) : ∃ o', Object.ofJson? (o.toJson.merge
        (.ofPairs [("metadata", .ofPairs [("finalizers", .arr (fs.map .str))])])) = some o' ∧
      o'.content.Ascending ∧ o'.metadata = { i.metadata with finalizers := some fs } ∧
      ReadsFrom t o' { i with metadata := { i.metadata with finalizers := some fs } } := by
  let q : List (String × Json) := [("finalizers", .arr (fs.map .str))]
  let ms := mergeMembers o.toJson.members [("metadata", .obj q)]
  have hother (k : String) (hk : k ≠ "metadata") : Dict.get? ms k = o.toJson.members.get? k :=
    get?_mergeMembers_of_not_mem fun p hp => by
      rw [List.mem_singleton.mp hp]
      exact hk.symm
  have hmetadata : ms.lookup "metadata" = some (.obj (mergeMembers o.metadata.toJson.members q)) := by
    refine (get?_mergeMembers_of_mem (by simp) (List.mem_singleton.mpr rfl) (by simp)).trans ?_
    rw [Object.get?_toJson_metadata, Option.getD_some, merge]
  have hfinalizers : Dict.get? (mergeMembers o.metadata.toJson.members q) "finalizers" = some (.arr (fs.map .str)) := by
    refine (get?_mergeMembers_of_mem (by simp) List.mem_cons_self (by simp)).trans ?_
    simp [merge]
  have hread : ObjectMeta.Reads (mergeMembers o.metadata.toJson.members q)
      { i.metadata with finalizers := some fs } := by
    refine h.metadata.congr (fun k hk => get?_mergeMembers_of_not_mem fun p hp => ?_) hfinalizers
    rw [List.mem_singleton.mp hp]
    exact hk.symm
  obtain ⟨o', ho'⟩ : ∃ o', Object.ofMembers? ms = some o' := by
    unfold Object.ofMembers?
    rw [hmetadata]
    dsimp only
    rw [ObjectMeta.ofJson?_eq_some.mpr hread]
    exact ⟨_, rfl⟩
  have hmeta : o'.metadata = { i.metadata with finalizers := some fs } :=
    Option.some.inj ((Object.ofMembers?_metadata ho' hmetadata).symm.trans (ObjectMeta.ofJson?_eq_some.mpr hread))
  obtain ⟨hcontent', hget⟩ := Object.ofMembers?_content ho' (ascending_mergeMembers (Dict.ascending_foldl _ .nil))
  have hsame (k : String) (hk : k ∉ ["apiVersion", "kind", "metadata"]) : o'.content.get? k = o.content.get? k := by
    rw [hget k hk, hother k (by simp_all), Object.get?_toJson hcontent hk]
  refine ⟨o', ?_, hcontent', hmeta, h.resource, ?_, ?_, ?_⟩
  · show Object.ofJson? (o.toJson.merge (.obj [("metadata", .obj q)])) = _
    rw [merge]
    exact ho'
  · rw [hmeta]
    exact h.metadata.again _
  · rw [hsame _ (by decide)]
    exact h.spec
  · rw [optional_congr (hsame _ (by decide))]
    exact h.status

end Instance
end PlatformOperator
