import SubmissionGrader.Json.Basic

/-!
# JSON with sorted keys

Reports list the members of their objects in the order of the keys.
-/

namespace SubmissionGrader.Json

mutual

/-- The value with the members of all objects in the order of their keys. -/
def sorted : Json → Json
  | array items => array (sortedItems items)
  | object members => object ((sortedMembers members).mergeSort fun a b => decide (a.1 ≤ b.1))
  | null => null
  | boolean value => boolean value
  | number digits => number digits
  | string value => string value

def sortedItems : List Json → List Json
  | [] => []
  | item :: rest => item.sorted :: sortedItems rest

def sortedMembers : List (String × Json) → List (String × Json)
  | [] => []
  | (key, value) :: rest => (key, value.sorted) :: sortedMembers rest

end

end SubmissionGrader.Json
