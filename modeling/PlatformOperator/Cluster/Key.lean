import PlatformOperator.Object

/-! Where a cluster stores objects, and the order in which it lists them. -/

namespace PlatformOperator

/-- Where an object is stored. -/
structure Key where
  group : String
  kind : String
  «namespace» : Option String
  name : String
  deriving DecidableEq, Repr, Inhabited

namespace Key

/-- Group, kind, namespace and name; a dash where there is no namespace. -/
def text (k : Key) : String := k.group ++ "/" ++ k.kind ++ "/" ++ k.namespace.getD "-" ++ "/" ++ k.name

/-- The order of group, kind, namespace and name; no namespace comes before any. -/
def lt (a b : Key) : Bool :=
  let byName := a.name < b.name
  let byNamespace := match a.namespace, b.namespace with
    | none, none => byName
    | none, some _ => true
    | some _, none => false
    | some m, some n => m < n || (m == n && byName)
  a.group < b.group || (a.group == b.group && (a.kind < b.kind || (a.kind == b.kind && byNamespace)))

/-- The key of an object of type `r`. -/
def ofResource (r : ApiResource) («namespace» : Option String) (name : String) : Key :=
  ⟨r.group, r.kind, «namespace», name⟩

/-- The key an object tells by itself. -/
def ofObject (o : Object) : Key :=
  ⟨match o.types with
    | some t => ((Text.splitOnce? '/' t.apiVersion).map (·.1)).getD ""
    | none => "", o.kind, o.metadata.namespace, o.name⟩

theorem lt_irrefl (k : Key) : k.lt k = false := by
  obtain ⟨g, k, ns, n⟩ := k
  cases ns <;> simp [lt]

theorem lt_trans {a b c : Key} (hab : a.lt b) (hbc : b.lt c) : a.lt c := by
  obtain ⟨g, k, ns, n⟩ := a
  obtain ⟨g', k', ns', n'⟩ := b
  obtain ⟨g'', k'', ns'', n''⟩ := c
  cases ns <;> cases ns' <;> cases ns'' <;>
    simp only [lt, Bool.or_eq_true, Bool.and_eq_true, decide_eq_true_eq, beq_iff_eq] at hab hbc ⊢ <;> grind

theorem lt_of_not_lt {a b : Key} (h : a.lt b = false) (hne : a ≠ b) : b.lt a := by
  obtain ⟨g, k, ns, n⟩ := a
  obtain ⟨g', k', ns', n'⟩ := b
  cases ns <;> cases ns' <;>
    simp only [lt, Bool.or_eq_true, Bool.and_eq_true, decide_eq_true_eq, beq_iff_eq, Bool.or_eq_false_iff,
      Bool.and_eq_false_iff, decide_eq_false_iff_not, beq_eq_false_iff_ne] at h ⊢ <;> grind

theorem ne_of_lt {a b : Key} (h : a.lt b) : a ≠ b := by
  rintro rfl
  rw [lt_irrefl] at h
  cases h

end Key
end PlatformOperator
