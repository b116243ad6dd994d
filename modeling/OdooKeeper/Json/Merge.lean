import OdooKeeper.Json.Basic

/-! # Merge patches

A patch is an object whose members are put into the target, deeply; a null member removes the
target's. -/

namespace OdooKeeper.Json

/-- The members of an object; no other value has any. -/
def membersOf : Json → List (String × Json)
  | .object members => members
  | _ => []

mutual

/-- The target changed by a patch. A patch that is no object replaces the target. -/
def mergePatch (target : Json) : Json → Json
  | .object patch => .object (mergeMembers (membersOf target) patch)
  | patch => patch

/-- The members of the target changed by the members of a patch. -/
def mergeMembers (target : List (String × Json)) : List (String × Json) → List (String × Json)
  | [] => target
  | (key, .null) :: rest => mergeMembers (target.filter fun m => m.1 ≠ key) rest
  | (key, patch) :: rest =>
    mergeMembers (putMember key (mergePatch ((target.lookup key).getD .null) patch) target) rest

end

end OdooKeeper.Json
