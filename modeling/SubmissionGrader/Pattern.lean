import SubmissionGrader.Pattern.Resolve
import SubmissionGrader.Pattern.Search
import SubmissionGrader.Pattern.Size
import SubmissionGrader.Text.Search

/-!
# Judging by patterns

A pattern is judged by how often it occurs in a source. What is no pattern, or too large a one, is
looked for as plain text.
-/

namespace SubmissionGrader.Pattern

/-- The program of a pattern, if the text is a pattern that is not too large. -/
def compile? (text : String) : Option Program := do
  let expression ← Expression.ofText? text
  if expression.fits then some (.ofExpression expression) else none

/-- A dialect of patterns, by how they are compiled. It is inferred. -/
class Dialect where
  program? : String → Option Program

instance : Dialect := ⟨compile?⟩

variable [Dialect]

def occurrences (pattern source : String) : List (List Char) :=
  let text := source.toList
  match Dialect.program? pattern with
  | some program =>
    (program.allMatches text).map fun m => (text.drop m.start).take (m.stop - m.start)
  | none => []

inductive Finding where
  | times (count least : Nat)
  | plain (pattern : String) (found : Bool)
  deriving DecidableEq, Repr

namespace Finding

def passed : Finding → Bool
  | times count least => least ≤ count
  | plain _ found => found

def count? : Finding → Option Nat
  | times count _ => some count
  | plain _ _ => none

def message : Finding → String
  | times count least =>
    let found := "Pattern found " ++ toString count ++ " time(s)"
    if least ≤ count then found else found ++ ", expected at least " ++ toString least
  | plain pattern found =>
    if found then "Pattern found as plain text (not a valid regex)"
    else "Pattern not found: " ++ pattern ++ " (not a valid regex, matched as plain text)"

end Finding

/-- The number of occurrences asked for: one, unless a larger number is given. -/
def leastCount : Option Nat → Nat
  | none | some 0 => 1
  | some n => n

def find (source pattern : String) (least : Option Nat) : Finding :=
  match Dialect.program? pattern with
  | some program => .times (program.allMatches source.toList).length (leastCount least)
  | none => .plain pattern (Text.contains source pattern)

end SubmissionGrader.Pattern
