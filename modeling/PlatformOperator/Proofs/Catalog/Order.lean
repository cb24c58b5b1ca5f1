import Mathlib.Data.List.Nodup
import PlatformOperator.Proofs.Catalog.Permission

/-! The order of the catalog. Deletable types are gathered in a set, which is gone through in an order of its own,
    and then sorted by their texts. The texts come out ascending and the same for whatever order. The types do so just
    if no two of them share a text, which two types of one group, version and kind do that differ in plural or
    scope. -/

namespace PlatformOperator

/-! ### Advertising the same -/

/-- The second lists advertise what the first ones do: lists, or the types of a list, stand in another order or are
    repeated. -/
inductive DiscoveryList.Rearranged : List DiscoveryList → List DiscoveryList → Prop
  | lists {lists lists' : List DiscoveryList} (h : lists'.Perm lists) : Rearranged lists lists'
  | types {before after : List DiscoveryList} {groupVersion : String} {ts ts' : List DiscoveredType}
      (h : ts'.Perm ts) : Rearranged (before ++ ⟨groupVersion, ts⟩ :: after) (before ++ ⟨groupVersion, ts'⟩ :: after)
  | listAgain {lists : List DiscoveryList} {l : DiscoveryList} (h : l ∈ lists) : Rearranged lists (l :: lists)
  | typeAgain {before after : List DiscoveryList} {groupVersion : String} {ts : List DiscoveredType}
      {d : DiscoveredType} (h : d ∈ ts) :
      Rearranged (before ++ ⟨groupVersion, ts⟩ :: after) (before ++ ⟨groupVersion, d :: ts⟩ :: after)
  | trans {lists lists' lists'' : List DiscoveryList} (h : Rearranged lists lists') (h' : Rearranged lists' lists'') :
      Rearranged lists lists''

/-- What holds of some type of some list holds of one of the rearranged lists. -/
theorem DiscoveryList.Rearranged.exists_iff {lists lists' : List DiscoveryList} (h : Rearranged lists lists')
    (P : String → DiscoveredType → Prop) :
    (∃ l ∈ lists', ∃ d ∈ l.types, P l.groupVersion d) ↔ ∃ l ∈ lists, ∃ d ∈ l.types, P l.groupVersion d := by
  induction h with
  | lists h => exact exists_congr fun l => and_congr_left fun _ => h.mem_iff
  | types h =>
    simp only [List.mem_append, List.mem_cons, or_and_right, exists_or, exists_eq_left, h.mem_iff]
  | listAgain h =>
    simp only [List.mem_cons, or_and_right, exists_or, exists_eq_left]
    exact or_iff_right_of_imp fun hl => ⟨_, h, hl⟩
  | typeAgain h =>
    simp only [List.mem_append, List.mem_cons, or_and_right, exists_or, exists_eq_left]
    refine or_congr_right (or_congr_left (or_iff_right_of_imp fun hd => ⟨_, h, hd⟩))
  | trans _ _ ih ih' => exact ih'.trans ih

namespace Catalog
variable {lists lists' : List DiscoveryList} {rules : List AccessRule} {ts us : List CatalogType} {t u : CatalogType}

/-! ### Gathering -/

/-- The deletable types of all lists, each once, in some order. -/
structure Gathers (lists : List DiscoveryList) (rules : List AccessRule) (ts : List CatalogType) : Prop where
  nodup : ts.Nodup
  mem : ∀ t, t ∈ ts ↔ ∃ l ∈ lists, t ∈ ofList rules l

/-- The types in the order of their texts; those of one text keep the order in which they come. -/
def sorted (ts : List CatalogType) : List CatalogType := ts.mergeSort fun a b => a.text ≤ b.text

theorem nodup_eraseDups (ts : List CatalogType) : ts.eraseDups.Nodup := by
  match ts with
  | [] => exact List.nodup_nil
  | t :: ts =>
    rw [List.eraseDups_cons, List.nodup_cons, List.mem_eraseDups, List.mem_filter]
    exact ⟨fun h => by simp at h, nodup_eraseDups _⟩
termination_by ts.length
decreasing_by exact Nat.lt_succ_of_le (List.length_filter_le _ _)

theorem gathers_eraseDups (lists : List DiscoveryList) (rules : List AccessRule) :
    Gathers lists rules (lists.flatMap (ofList rules)).eraseDups where
  nodup := nodup_eraseDups _
  mem t := by rw [List.mem_eraseDups, List.mem_flatMap]

theorem Gathers.perm (h : Gathers lists rules ts) (h' : Gathers lists rules us) : ts.Perm us :=
  (List.perm_ext_iff_of_nodup h.nodup h'.nodup).mpr fun t => (h.mem t).trans (h'.mem t).symm

/-- What is gathered does not depend on the arrangement of the lists. -/
theorem Gathers.of_rearranged (h : Gathers lists' rules ts) (hlists : DiscoveryList.Rearranged lists lists') :
    Gathers lists rules ts where
  nodup := h.nodup
  mem t := by
    -- Only group and version of a list, and not the other types in it, bear on what a type of it makes.
    have hofList (l : DiscoveryList) : t ∈ ofList rules l ↔
        ∃ d ∈ l.types, t ∈ ofList rules ⟨l.groupVersion, [d]⟩ := by
      simp only [mem_ofList, DiscoveryList.advertises_iff, List.mem_singleton, exists_eq_left]
      rfl
    have hexists (lists : List DiscoveryList) : (∃ l ∈ lists, t ∈ ofList rules l) ↔
        ∃ l ∈ lists, ∃ d ∈ l.types, t ∈ ofList rules ⟨l.groupVersion, [d]⟩ :=
      exists_congr fun l => and_congr_right fun _ => hofList l
    rw [h.mem, hexists, hexists]
    exact hlists.exists_iff fun groupVersion d => t ∈ ofList rules ⟨groupVersion, [d]⟩

/-! ### Sorting -/

theorem sorted_perm (ts : List CatalogType) : (sorted ts).Perm ts := List.mergeSort_perm _ _

theorem text_le_trans (a b c : CatalogType) (hab : decide (a.text ≤ b.text) = true)
    (hbc : decide (b.text ≤ c.text) = true) : decide (a.text ≤ c.text) = true :=
  decide_eq_true (String.le_trans (of_decide_eq_true hab) (of_decide_eq_true hbc))

theorem text_le_total (a b : CatalogType) : (decide (a.text ≤ b.text) || decide (b.text ≤ a.text)) = true := by
  rw [Bool.or_eq_true, decide_eq_true_eq, decide_eq_true_eq]
  exact String.le_total a.text b.text

theorem sorted_ascends (ts : List CatalogType) : (sorted ts).Pairwise fun a b => a.text ≤ b.text :=
  (List.pairwise_mergeSort text_le_trans text_le_total ts).imp of_decide_eq_true

theorem sublist_sorted (h : [t, u].Sublist ts) (htext : t.text = u.text) : [t, u].Sublist (sorted ts) := by
  -- Types of one text are in order whichever comes first, so the sort leaves them as they stand.
  refine List.sublist_mergeSort text_le_trans text_le_total (List.pairwise_pair.mpr ?_) h
  exact decide_eq_true (htext ▸ String.le_refl _)

/-- The texts of sorted types are the same for whatever order they come in. -/
theorem map_text_sorted (h : ts.Perm us) : (sorted ts).map (·.text) = (sorted us).map (·.text) := by
  have hperm : (sorted ts).Perm (sorted us) := (sorted_perm ts).trans (h.trans (sorted_perm us).symm)
  refine (hperm.map _).eq_of_pairwise (fun (a b : String) _ _ (hab : a ≤ b) hba => String.le_antisymm hab hba) ?_ ?_
  · exact List.pairwise_map.mpr (sorted_ascends ts)
  · exact List.pairwise_map.mpr (sorted_ascends us)

/-- Two members of a list without repetitions stand in one order only. -/
theorem eq_of_sublist_swap (h : ts.Nodup) (htu : [t, u].Sublist ts) (hut : [u, t].Sublist ts) : t = u := by
  induction ts with
  | nil => cases htu
  | cons a ts ih =>
    obtain ⟨hnot, hnodup⟩ := List.nodup_cons.mp h
    cases htu with
    | cons _ htu =>
      cases hut with
      | cons _ hut => exact ih hnodup htu hut
      | cons_cons _ _ => exact absurd (htu.subset (List.mem_cons_of_mem _ List.mem_cons_self)) hnot
    | cons_cons _ _ =>
      cases hut with
      | cons _ hut => exact absurd (hut.subset (List.mem_cons_of_mem _ List.mem_cons_self)) hnot
      | cons_cons _ _ => rfl

/-! ### The catalog -/

/-- No two of the deletable types have one text. -/
def TextsDiffer (lists : List DiscoveryList) (rules : List AccessRule) : Prop :=
  ∀ t ∈ compute lists rules, ∀ u ∈ compute lists rules, t.text = u.text → t = u

/-- However the lists are arranged and the types gathered, the catalog is the same. -/
def Determined (lists : List DiscoveryList) (rules : List AccessRule) : Prop :=
  ∀ lists' ts, DiscoveryList.Rearranged lists lists' → Gathers lists' rules ts → sorted ts = compute lists rules

theorem perm_compute (h : Gathers lists rules ts) : ts.Perm (compute lists rules) :=
  (h.perm (gathers_eraseDups lists rules)).trans (sorted_perm _).symm

theorem gathers_compute (lists : List DiscoveryList) (rules : List AccessRule) :
    Gathers lists rules (compute lists rules) where
  nodup := (perm_compute (gathers_eraseDups lists rules)).nodup (gathers_eraseDups lists rules).nodup
  mem _ := mem_compute

theorem ascends_iff : ((compute lists rules).Pairwise fun a b => a.text < b.text) ↔ TextsDiffer lists rules := by
  constructor
  · intro h t ht u hu htext
    have hnodup : ((compute lists rules).map (·.text)).Nodup :=
      List.pairwise_map.mpr (h.imp fun hlt => String.ne_of_lt hlt)
    exact List.inj_on_of_nodup_map hnodup ht hu htext
  · intro h
    have hascends : (compute lists rules).Pairwise fun a b => a.text ≤ b.text := sorted_ascends _
    refine (hascends.and (gathers_compute lists rules).nodup).imp_of_mem fun ha hb ⟨hle, hne⟩ => ?_
    exact String.not_le.mp fun hge => hne (h _ ha _ hb (String.le_antisymm hle hge))

theorem determined_iff : Determined lists rules ↔ TextsDiffer lists rules := by
  constructor
  · intro h t ht u hu htext
    by_contra hne
    let rest := (compute lists rules).filter fun a => a ≠ t ∧ a ≠ u
    have hgathers (a b : CatalogType) (hab : a ≠ b) (heq : a = t ∧ b = u ∨ a = u ∧ b = t) :
        Gathers lists rules (a :: b :: rest) := by
      refine ⟨?_, fun c => ?_⟩
      · have hnodup : rest.Nodup := (gathers_compute lists rules).nodup.filter _
        grind
      · rw [← mem_compute]
        grind
    -- The sort leaves the two in the order in which they were gathered.
    have htu : [t, u].Sublist (compute lists rules) := by
      rw [← h lists _ (.lists (.refl _)) (hgathers t u hne (.inl ⟨rfl, rfl⟩))]
      exact sublist_sorted (List.cons_sublist_cons.mpr (List.cons_sublist_cons.mpr (List.nil_sublist _))) htext
    have hut : [u, t].Sublist (compute lists rules) := by
      rw [← h lists _ (.lists (.refl _)) (hgathers u t (Ne.symm hne) (.inr ⟨rfl, rfl⟩))]
      exact sublist_sorted (List.cons_sublist_cons.mpr (List.cons_sublist_cons.mpr (List.nil_sublist _))) htext.symm
    exact hne (eq_of_sublist_swap (gathers_compute lists rules).nodup htu hut)
  · intro h lists' ts hlists hts
    have hperm : (sorted ts).Perm (compute lists rules) :=
      (sorted_perm ts).trans (perm_compute (hts.of_rearranged hlists))
    refine hperm.eq_of_pairwise (fun a b ha hb hab hba => ?_) (sorted_ascends ts) (sorted_ascends _)
    exact h a (hperm.mem_iff.mp ha) b hb (String.le_antisymm hab hba)

/-- Whatever order the set of deletable types has and however the lists are arranged, the catalog holds the same types
    and its texts ascend in the same way. It ascends strictly, and it is determined, just if no two types in it have
    one text. -/
theorem catalog_canonical_iff (lists : List DiscoveryList) (rules : List AccessRule) :
    (∀ lists' ts, DiscoveryList.Rearranged lists lists' → Gathers lists' rules ts →
      (sorted ts).Perm (compute lists rules) ∧ ((sorted ts).Pairwise fun a b => a.text ≤ b.text) ∧
        (sorted ts).map (·.text) = (compute lists rules).map (·.text)) ∧
    (((compute lists rules).Pairwise fun a b => a.text < b.text) ↔ TextsDiffer lists rules) ∧
    (Determined lists rules ↔ TextsDiffer lists rules) := by
  refine ⟨fun lists' ts hlists hts => ?_, ascends_iff, determined_iff⟩
  have hts := hts.of_rearranged hlists
  exact ⟨(sorted_perm ts).trans (perm_compute hts), sorted_ascends ts,
    map_text_sorted (hts.perm (gathers_eraseDups lists rules))⟩

namespace Sample

/-- Lets the operator do anything with any type. -/
def anything : AccessRule := ⟨["*"], some ["*"], some ["*"], none⟩

def offered (name kind : String) (namespaced : Bool) : DiscoveredType :=
  ⟨name, kind, namespaced, ["delete"], none, none⟩

def maps : DiscoveryList := ⟨"v1", [offered "configmaps" "ConfigMap" true]⟩

def workloads : DiscoveryList := ⟨"apps/v1", [offered "deployments" "Deployment" true]⟩

/-- A list that advertises one kind with two scopes. -/
def ambiguous : DiscoveryList := ⟨"v1", [offered "configmaps" "ConfigMap" true, offered "configmaps" "ConfigMap" false]⟩

def map (scope : Scope) : CatalogType := ⟨"", "v1", "ConfigMap", "configmaps", scope⟩

def deployment : CatalogType := ⟨"apps", "v1", "Deployment", "deployments", .namespaced⟩

theorem gathers_both : Gathers [workloads, maps] [anything] [map .namespaced, deployment] where
  nodup := by decide
  mem t := by
    have hworkloads : ofList [anything] workloads = [deployment] := by decide +kernel
    have hmaps : ofList [anything] maps = [map .namespaced] := by decide +kernel
    simp only [List.mem_cons, List.not_mem_nil, or_false, exists_eq_or_imp, exists_eq_left, hworkloads, hmaps]
    exact or_comm

theorem gathers_ambiguous {s s' : Scope} (h : s ≠ s') :
    Gathers [ambiguous] [anything] [map s, map s'] where
  nodup := by
    simp only [map, List.nodup_cons, List.mem_singleton, CatalogType.mk.injEq, true_and, List.not_mem_nil,
      not_false_eq_true, List.nodup_nil, and_true]
    exact h
  mem t := by
    have hambiguous : ofList [anything] ambiguous = [map .namespaced, map .cluster] := by decide +kernel
    simp only [List.mem_singleton, exists_eq_left, hambiguous]
    cases s <;> cases s' <;> grind

end Sample

open Sample in
theorem catalog_canonical_iff_sample :
    DiscoveryList.Rearranged [maps, workloads] [workloads, maps] ∧
      Gathers [workloads, maps] [anything] [map .namespaced, deployment] ∧
      (sorted [map .namespaced, deployment]).map (·.text) =
        (compute [maps, workloads] [anything]).map (·.text) := by
  have hlists : DiscoveryList.Rearranged [maps, workloads] [workloads, maps] := .lists (.swap _ _ _)
  exact ⟨hlists, gathers_both, ((catalog_canonical_iff _ _).1 _ _ hlists gathers_both).2.2⟩

open Sample in
/-- A kind that is advertised with two scopes is in the catalog twice, in the order in which the set of deletable
    types happens to be gone through. -/
theorem kind_cataloged_twice :
    (map .namespaced ∈ compute [ambiguous] [anything] ∧ map .cluster ∈ compute [ambiguous] [anything] ∧
      (map .namespaced).gvk = (map .cluster).gvk) ∧
    (¬(compute [ambiguous] [anything]).Pairwise fun a b => a.text < b.text) ∧
    Gathers [ambiguous] [anything] [map .namespaced, map .cluster] ∧
    Gathers [ambiguous] [anything] [map .cluster, map .namespaced] ∧
    sorted [map .namespaced, map .cluster] ≠ sorted [map .cluster, map .namespaced] := by
  have hgathers : Gathers [ambiguous] [anything] [map .namespaced, map .cluster] := gathers_ambiguous (by decide)
  have hnamespaced : map .namespaced ∈ compute [ambiguous] [anything] :=
    (perm_compute hgathers).subset List.mem_cons_self
  have hcluster : map .cluster ∈ compute [ambiguous] [anything] :=
    (perm_compute hgathers).subset (List.mem_cons_of_mem _ List.mem_cons_self)
  refine ⟨⟨hnamespaced, hcluster, rfl⟩, fun hascends => ?_, hgathers, gathers_ambiguous (by decide), ?_⟩
  · exact absurd (ascends_iff.mp hascends _ hnamespaced _ hcluster rfl) (by decide)
  · have hsorted (s s' : Scope) : sorted [map s, map s'] = [map s, map s'] := by
      refine List.mergeSort_of_pairwise (List.pairwise_pair.mpr ?_)
      exact decide_eq_true (String.le_refl _)
    rw [hsorted, hsorted]
    decide

end Catalog
end PlatformOperator
