import SignalBox.Json.Basic

namespace SignalBox
namespace Json

/-!
# Merge patches

Changing a JSON value by another one, after RFC 7396.  A patch that is an object changes
the members that it names: null removes a member, and any other value patches it.  A patch
that is no object takes the place of the value.
-/

/-- The members of an object; other values have none. -/
def members : Json → List (Name × Json)
  | object members => members
  | _ => []

/-- The members with a value under a name, in the place of the one that was there. -/
def setMember (name : String) (value : Json) : List (Name × Json) → List (Name × Json)
  | [] => [(name, value)]
  | entry :: rest =>
    if entry.1.text = name then (name, value) :: rest else entry :: setMember name value rest

mutual

/-- A value changed by a patch. -/
def mergePatch (target : Json) : Json → Json
  | object changes => object (mergeMembers target.members changes)
  | replacement => replacement

/-- Members changed one after the other. -/
def mergeMembers (current : List (Name × Json)) :
    List (Name × Json) → List (Name × Json)
  | [] => current
  | (name, null) :: rest =>
    mergeMembers (current.filter fun entry => entry.1.text != name.text) rest
  | (name, change) :: rest =>
    let changed := mergePatch ((lastMember? name.text current).getD null) change
    mergeMembers (setMember name.text changed current) rest

end

end Json
end SignalBox
