import PlatformOperator.Proofs.Action.Collect
import PlatformOperator.Proofs.Cluster.Selector
import PlatformOperator.Proofs.Collector.Staleness

/-! What a collector selects: the objects that carry all of its labels or, without labels of its own, those that are
    part of the kind of the instance, as a deployment marks them. -/

namespace PlatformOperator

theorem ObjectMeta.get?_labels (m : ObjectMeta) (key : String) : (m.labels.getD []).get? key = m.label? key := by
  cases h : m.labels <;> simp [ObjectMeta.label?, h]

/-! ### Names in lower case -/

namespace Text

theorem lowerFrom_eq_map : ∀ {cs : List Char} (before : List Char), (∀ c ∈ cs, c.isAlphanum = true) →
    lowerFrom before cs = cs.map Char.toLower
  | [], _, _ => rfl
  | c :: cs, before, h => by
    obtain ⟨-, hhigh, -⟩ := Selector.isNameChar_range (c := c) (by simp [Selector.isNameChar, h c List.mem_cons_self])
    have hsigma : ¬c.toNat = 0x3A3 := by omega
    have hascii : c.toNat < 0x80 := by omega
    rw [lowerFrom, if_neg hsigma, lowerChars, if_pos hascii,
      lowerFrom_eq_map _ fun d hd => h d (List.mem_cons_of_mem _ hd)]
    rfl

/-- Letters and digits are written in lower case one by one. -/
theorem lower_eq_toLower {s : String} (h : ∀ c ∈ s.toList, c.isAlphanum = true) : lower s = s.toLower := by
  rw [lower, lowerFrom_eq_map [] h, ← String.toList_map]
  exact String.ofList_toList

end Text

theorem Selector.literal_of_isAlphanum {s : String} (h : ∀ c ∈ s.toList, c.isAlphanum = true) : Literal s :=
  literal_of_isNameChar fun c hc => by simp [isNameChar, h c hc]

namespace GarbageCollector
variable {g : GarbageCollector} {subject : Instance} {o : Object}

/-! ### The two selectors -/

theorem selects_labels_iff (hlabels : g.labels ≠ [])
    (h : ∀ p ∈ g.labels, Selector.Literal p.1 ∧ Selector.Literal p.2) :
    Selector.selects (g.selector subject) (o.metadata.labels.getD []) = true ↔
      ∀ p ∈ g.labels, o.metadata.label? p.1 = some p.2 := by
  rw [selector, if_neg hlabels, Selector.selects_intercalate hlabels h]
  simp only [ObjectMeta.get?_labels]

theorem selects_partOf_iff (hlabels : g.labels = []) (h : Selector.Literal subject.label) :
    Selector.selects (g.selector subject) (o.metadata.labels.getD []) = true ↔
      o.metadata.label? Marks.partOf = some subject.label := by
  rw [selector, if_pos hlabels, Selector.selects_equals (by decide) h, ObjectMeta.get?_labels]

/-- A collector with labels selects what carries every one of them. Without labels it selects what is part of the
    owning kind in lower case, and a deployment marks what has no such label of its own as exactly that. -/
theorem selector_selects (g : GarbageCollector) (subject : Instance) (o : Object) :
    (g.labels ≠ [] → (∀ p ∈ g.labels, Selector.Literal p.1 ∧ Selector.Literal p.2) →
      (Selector.selects (g.selector subject) (o.metadata.labels.getD []) = true ↔
        ∀ p ∈ g.labels, o.metadata.label? p.1 = some p.2)) ∧
    (g.labels = [] → (∀ c ∈ subject.resource.kind.toList, c.isAlphanum = true) →
      (Selector.selects (g.selector subject) (o.metadata.labels.getD []) = true ↔
        o.metadata.label? Marks.partOf = some (Text.lower subject.resource.kind)) ∧
      ∀ r : Request, r.subject = subject → o.metadata.label? Marks.partOf = none →
        (Deploy.stamp r o).metadata.label? Marks.partOf = some (Text.lower subject.resource.kind)) := by
  refine ⟨selects_labels_iff, fun hlabels hkind => ?_⟩
  have hliteral : Selector.Literal subject.label := by
    rw [Instance.label, Text.lower_eq_toLower hkind]
    exact (Selector.literal_of_isAlphanum hkind).toLower
  refine ⟨selects_partOf_iff hlabels hliteral, fun r hsubject hmark => ?_⟩
  rw [Deploy.label?_stamp_partOf, hmark, hsubject]
  rfl

end GarbageCollector

/-! ### Web servers by labels -/

namespace Sample

/-- Collects by two labels, one of them without a value. -/
def webCollector : GarbageCollector := { collector with labels := [("app.kubernetes.io/name", "web-1"), ("tier", "")] }

def webMap : Object :=
  (configMap "web").mapMeta fun m => { m with
    labels := some [("app.kubernetes.io/name", "web-1"), ("app.kubernetes.io/part-of", "shop"), ("tier", "")] }

end Sample

theorem GarbageCollector.selector_selects_sample :
    Selector.selects (Sample.webCollector.selector (Sample.dashboard "d" 1))
      (Sample.webMap.metadata.labels.getD []) = true ∧
    ¬Selector.selects (Sample.webCollector.selector (Sample.dashboard "d" 1))
      ((Sample.rendered "old" "1").metadata.labels.getD []) = true ∧
    Selector.selects (Sample.collector.selector (Sample.dashboard "d" 1))
      ((Sample.rendered "old" "1").metadata.labels.getD []) = true ∧
    (Deploy.stamp (Sample.request (Sample.dashboard "d" 1) []) Sample.webMap).metadata.label? Marks.partOf =
      some (Text.lower "Dashboard") := by
  have hlabels : ∀ p ∈ Sample.webCollector.labels, Selector.Literal p.1 ∧ Selector.Literal p.2 := by decide
  have hkind : ∀ c ∈ Instance.dashboards.kind.toList, c.isAlphanum = true := List.all_eq_true.mp (by decide)
  have hplain := selector_selects Sample.collector (Sample.dashboard "d" 1)
  refine ⟨?_, ?_, ?_, ?_⟩
  · exact ((selector_selects Sample.webCollector _ _).1 (by decide) hlabels).mpr (by decide)
  · exact mt ((selector_selects Sample.webCollector _ _).1 (by decide) hlabels).mp (by decide)
  · exact ((hplain _).2 rfl hkind).1.mpr (by decide +kernel)
  · exact ((hplain _).2 rfl hkind).2 _ rfl (by decide)

end PlatformOperator
