import SubmissionGrader.Text.Search

/-!
# Lines

A line ends at a line feed, and a carriage return in front of the line feed belongs to the end. What
stands behind the last line feed is a line too, unless it is empty.
-/

namespace SubmissionGrader.Text

def dropReturn (cs : List Char) : List Char :=
  if cs.getLast? = some '\r' then cs.dropLast else cs

/-- The lines of which the pieces between line feeds are made. -/
def linesOfPieces : List (List Char) → List (List Char)
  | [] => []
  | [last] => if last.isEmpty then [] else [last]
  | piece :: rest => dropReturn piece :: linesOfPieces rest

def lines (s : String) : List String :=
  (linesOfPieces (splitOn '\n' s.toList)).map String.ofList

end SubmissionGrader.Text
