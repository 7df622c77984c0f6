/-!
# Operators of the checker language
-/

namespace SubmissionGrader.Checker

inductive Comparison where
  | strictlyEqual
  | strictlyUnequal
  | equal
  | unequal
  | less
  | atMost
  | greater
  | atLeast
  deriving DecidableEq, Repr

namespace Comparison

def symbol : Comparison → String
  | strictlyEqual => "==="
  | strictlyUnequal => "!=="
  | equal => "=="
  | unequal => "!="
  | less => "<"
  | atMost => "<="
  | greater => ">"
  | atLeast => ">="

/-- The comparisons that bind less tightly than the others. -/
def isEquality : Comparison → Bool
  | strictlyEqual | strictlyUnequal | equal | unequal => true
  | _ => false

end Comparison

/-- Everything in a checker that is neither a number, a text nor a name. -/
inductive Operator where
  | compare (comparison : Comparison)
  | and
  | or
  | not
  | openParen
  | closeParen
  | openBracket
  | closeBracket
  | point
  deriving DecidableEq, Repr

namespace Operator

def symbol : Operator → String
  | compare comparison => comparison.symbol
  | and => "&&"
  | or => "||"
  | not => "!"
  | openParen => "("
  | closeParen => ")"
  | openBracket => "["
  | closeBracket => "]"
  | point => "."

/-- All operators; one that begins another one stands behind it. -/
def all : List Operator :=
  [compare .strictlyEqual, compare .strictlyUnequal, compare .equal, compare .unequal,
   compare .atMost, compare .atLeast, and, or, compare .less, compare .greater, not,
   openParen, closeParen, openBracket, closeBracket, point]

def atFront? (cs : List Char) : Option Operator :=
  all.find? fun operator => operator.symbol.toList.isPrefixOf cs

theorem mem_all (operator : Operator) : operator ∈ all := by
  cases operator with
  | compare comparison => cases comparison <;> decide
  | _ => decide

end Operator

end SubmissionGrader.Checker
