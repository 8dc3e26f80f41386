import VolumeDrain.Json

/-!
# Merge patches

Changing a document by a patch document as RFC 7386 lays down: an object patches member by member,
`null` removes a member, anything else replaces the value.
-/
namespace VolumeDrain.Json

/-- The members of an object, none for any other value. -/
def membersOf : Json → Members
  | obj members => members
  | _ => []

mutual

/-- The document after a merge patch. -/
def mergePatch (patch target : Json) : Json :=
  match patch with
  | obj changes => obj (mergeMembers changes target.membersOf)
  | other => other

/-- The members after the changes of a patch, taken in turn. -/
def mergeMembers (changes : List (String × Json)) (target : Members) : Members :=
  match changes with
  | [] => target
  | (name, change) :: rest =>
    match change with
    | null => mergeMembers rest (dropMember name target)
    | other =>
      mergeMembers rest (putMember name (mergePatch other ((target.lookup name).getD null)) target)

end

end VolumeDrain.Json
