import SubmissionGrader.Text.Columns
import SubmissionGrader.Text.Search

/-!
# Tables in text

A table has a head and rows. Every column is as wide as its widest line, and a cell may have several
lines. Rules separate the rows; the one below the head is drawn twice as thick.
-/

namespace SubmissionGrader

structure TextTable where
  head : List String
  rows : List (List String)
  deriving DecidableEq, Repr

namespace TextTable

def cellLines (cell : String) : List (List Char) := Text.splitOn '\n' cell.toList

def cellWidth (cell : String) : Nat := ((cellLines cell).map Text.columns).foldl max 0

def widths (t : TextTable) : List Nat :=
  t.rows.foldl (fun widths row => List.zipWith max widths (row.map cellWidth)) (t.head.map cellWidth)

def padded (width : Nat) (cs : List Char) : List Char :=
  cs ++ List.replicate (width - Text.columns cs) ' '

/-- A line with a cell for each width, where each cell gives its line number `n`. -/
def cellsLine (widths : List Nat) (cells : List (List (List Char))) (n : Nat) : List Char :=
  let parts := List.zipWith (fun width lines => ' ' :: (padded width (lines.getD n []) ++ [' ']))
    widths cells
  '|' :: (['|'].intercalate parts ++ ['|'])

def rowLines (widths : List Nat) (row : List String) : List (List Char) :=
  let cells := row.map cellLines
  (List.range ((cells.map List.length).foldl max 0)).map (cellsLine widths cells)

def rule (left dash cross right : Char) (widths : List Nat) : List Char :=
  left :: ([cross].intercalate (widths.map fun width => List.replicate (width + 2) dash) ++ [right])

def rowsLines (widths : List Nat) : List (List String) → List (List Char)
  | [] => []
  | [row] => rowLines widths row
  | row :: rest => rowLines widths row ++ rule '|' '-' '+' '|' widths :: rowsLines widths rest

def lines (t : TextTable) : List String :=
  let widths := t.widths
  let border := rule '+' '-' '+' '+' widths
  (border :: (rowLines widths t.head ++ rule '+' '=' '=' '+' widths :: rowsLines widths t.rows ++
    [border])).map String.ofList

end TextTable

end SubmissionGrader
