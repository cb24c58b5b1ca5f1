import PlatformOperator.Json

/-! Merge patches: members named by the patch are replaced or, where the patch has null, removed; all
    others stay. A patch that is no object replaces the whole value. -/

namespace PlatformOperator.Json

mutual

/-- The value `target` after `patch`. -/
def merge (target : Json) : Json → Json
  | .obj patch => .obj (mergeMembers target.members patch)
  | patch => patch

/-- The members `ms` after the members of a patch, one after another. -/
def mergeMembers (ms : List (String × Json)) : List (String × Json) → List (String × Json)
  | [] => ms
  | (k, .null) :: ps => mergeMembers (Dict.erase k ms) ps
  | (k, p) :: ps => mergeMembers (Dict.insert k (merge ((Dict.get? ms k).getD .null) p) ms) ps

end

end PlatformOperator.Json
