import PlatformOperator.Api
import PlatformOperator.Json.Record

/-! The catalog of types whose objects the operator may delete: those the API serves with the delete verb
    and an access rule lets the operator delete. -/

namespace PlatformOperator

/-- A type as discovery advertises it. The list it stands in gives group and version. -/
structure DiscoveredType where
  name : String
  kind : String
  namespaced : Bool
  verbs : List String
  group : Option String
  version : Option String
  deriving DecidableEq, Repr, Inhabited

/-- The types of one group and version. -/
structure DiscoveryList where
  groupVersion : String
  types : List DiscoveredType
  deriving DecidableEq, Repr, Inhabited

/-- What the operator may do with which types. -/
structure AccessRule where
  verbs : List String
  apiGroups : Option (List String)
  resources : Option (List String)
  resourceNames : Option (List String)
  deriving DecidableEq, Repr, Inhabited

section Encoding
open Json

/-- Whether an object tells no other type than this. -/
def isOfType (apiVersion kind : String) (ms : Dict Json) : Bool :=
  (ms.get? "apiVersion").all (· == .str apiVersion) && (ms.get? "kind").all (· == .str kind)

def DiscoveredType.ofJson? : Json → Option DiscoveredType
  | .obj ms => do
    return {
      name := ← lenient ms "name" str?
      kind := ← lenient ms "kind" str?
      namespaced := ← lenient ms "namespaced" bool?
      verbs := ← lenient ms "verbs" (list? str?)
      group := ← optional ms "group" str?
      version := ← optional ms "version" str? }
  | _ => none

def DiscoveryList.ofJson? : Json → Option DiscoveryList
  | .obj ms => do
    if !isOfType "v1" "APIResourceList" ms then none
    return ⟨← lenient ms "groupVersion" str?, ← lenient ms "resources" (list? DiscoveredType.ofJson?)⟩
  | _ => none

def AccessRule.ofJson? : Json → Option AccessRule
  | .obj ms => do
    return {
      verbs := ← lenient ms "verbs" (list? str?)
      apiGroups := ← optional ms "apiGroups" (list? str?)
      resources := ← optional ms "resources" (list? str?)
      resourceNames := ← optional ms "resourceNames" (list? str?) }
  | _ => none

def AccessRule.toJson (r : AccessRule) : Json :=
  let texts (ts : List String) : Json := .arr (ts.map .str)
  .ofPresent [("apiGroups", r.apiGroups.map texts), ("resourceNames", r.resourceNames.map texts),
    ("resources", r.resources.map texts), ("verbs", some (texts r.verbs))]

end Encoding

namespace AccessRule

def deleteVerb : String := "delete"
def anyVerb : String := "*"
def anyResource : String := "*"

/-- Whether the rule covers the API group and the name of a type; its verbs do not count. -/
def covers (rule : AccessRule) (group name : String) : Bool :=
  (rule.apiGroups.getD []).any (fun g => g == anyResource || g == group) &&
    (rule.resources.getD []).any (fun r => r == anyResource || r == name)

def grantsDelete (rule : AccessRule) : Bool := rule.verbs.any fun v => v == deleteVerb || v == anyVerb

end AccessRule

/-- A type whose objects the operator may delete. -/
structure CatalogType where
  group : String
  version : String
  kind : String
  plural : String
  scope : Scope
  deriving DecidableEq, Repr, Inhabited

namespace CatalogType

def gvk (t : CatalogType) : Gvk := ⟨t.group, t.version, t.kind⟩

def apiResource (t : CatalogType) : ApiResource := .ofGvk t.gvk t.plural

def text (t : CatalogType) : String := t.gvk.text

/-- The order of all fields, namespaced types before cluster ones. -/
def le (a b : CatalogType) : Bool :=
  let rest := match a.scope, b.scope with
    | .cluster, .namespaced => false
    | _, _ => true
  [(a.group, b.group), (a.version, b.version), (a.kind, b.kind), (a.plural, b.plural)].foldr
    (fun p rest => p.1 < p.2 || (p.1 == p.2 && rest)) rest

end CatalogType

namespace DiscoveredType

def scope (t : DiscoveredType) : Scope := if t.namespaced then .namespaced else .cluster

/-- Whether objects of the type can be deleted on their own: a name with a slash is part of another type. -/
def supportsDelete (t : DiscoveredType) : Bool :=
  !t.name.toList.contains '/' && t.verbs.contains AccessRule.deleteVerb

/-- The group that rules are asked about: the type's own, else that of its list. -/
def ruleGroup (t : DiscoveredType) (listed : String) : String :=
  match t.group with
  | none | some "" => listed
  | some g => g

end DiscoveredType

namespace Catalog

/-- The deletable types of one list, as the rules allow. -/
def ofList (rules : List AccessRule) (l : DiscoveryList) : List CatalogType :=
  let (group, version) := Gvk.splitApiVersion l.groupVersion
  let allowed := l.types.filter fun t => t.supportsDelete &&
    rules.any fun rule => rule.grantsDelete && rule.covers (t.ruleGroup group) t.name
  allowed.map fun t => ⟨group, version, t.kind, t.name, t.scope⟩

/-- The deletable types of all lists, each once, in the order of their texts. -/
def compute (lists : List DiscoveryList) (rules : List AccessRule) : List CatalogType :=
  ((lists.flatMap (ofList rules)).eraseDups).mergeSort fun a b => a.text ≤ b.text

end Catalog
end PlatformOperator
