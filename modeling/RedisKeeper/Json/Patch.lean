import RedisKeeper.Json.Basic

/-
JSON merge patch: the members of the patch replace those of the target one by
one and in depth, a null member takes the target's away, and a patch that is no
object replaces the whole target.
-/
namespace RedisKeeper
namespace Json

/-- The members of an object, none for any other value. -/
def membersOf : Json → List (String × Json)
  | .obj members => members
  | _ => []

mutual

def mergePatch (target : Json) : Json → Json
  | .obj changes => .obj (mergeMembers (membersOf target) changes)
  | patch => patch

/-- Applies the members of a patch to those of a target, in order. -/
def mergeMembers (members : List (String × Json)) : List (String × Json) → List (String × Json)
  | [] => members
  | (key, .null) :: changes => mergeMembers (Keyed.without key members) changes
  | (key, change) :: changes =>
    mergeMembers
      (Keyed.place key (mergePatch ((members.lookup key).getD .null) change) members)
      changes

end

end Json
end RedisKeeper
