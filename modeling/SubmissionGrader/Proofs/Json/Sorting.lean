import SubmissionGrader.Json.Sorted
import SubmissionGrader.Proofs.Lists

/-!
# Members of a sorted object

Sorting a value sorts the members of its objects by their keys and changes nothing else. An object
whose keys are different has the same members under them, each one sorted as well.
-/

namespace SubmissionGrader.Json

theorem sortedItems_eq_map (items : List Json) : sortedItems items = items.map sorted := by
  induction items with
  | nil => rfl
  | cons item rest ih => rw [sortedItems, ih, List.map_cons]

theorem sortedMembers_eq_map (members : List (String × Json)) :
    sortedMembers members = members.map fun m => (m.1, m.2.sorted) := by
  induction members with
  | nil => rfl
  | cons member rest ih => rw [sortedMembers, ih, List.map_cons]

/-- The texts in a list stay as they are. -/
theorem sorted_strings (items : List String) : (strings items).sorted = strings items := by
  have hitem : sorted ∘ string = string := funext fun _ => by rw [Function.comp_apply, sorted]
  rw [strings, sorted, sortedItems_eq_map, List.map_map, hitem]

theorem member?_sorted {members : List (String × Json)} (h : (members.map Prod.fst).Nodup)
    (key : String) :
    (object members).sorted.member? key = ((object members).member? key).map sorted := by
  have hkeys : ((members.map fun m => (m.1, m.2.sorted)).map Prod.fst).Nodup := by
    rwa [List.map_map]
  have hfind := Lists.find?_key_perm (List.mergeSort_perm _ fun a b : String × Json =>
    decide (a.1 ≤ b.1)).symm hkeys key
  rw [sorted, sortedMembers_eq_map, member?, member?]
  calc ((members.map fun m => (m.1, m.2.sorted)).mergeSort _ |>.find? (·.1 == key)).map Prod.snd
      = ((members.map fun m => (m.1, m.2.sorted)).find? (·.1 == key)).map Prod.snd :=
        congrArg (Option.map Prod.snd) hfind.symm
    _ = ((members.find? (·.1 == key)).map Prod.snd).map sorted := by
        rw [List.find?_map, Option.map_map, Option.map_map]
        rfl

end SubmissionGrader.Json
