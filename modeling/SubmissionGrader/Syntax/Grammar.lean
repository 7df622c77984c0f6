import SubmissionGrader.Syntax.Grammar.Statement
import SubmissionGrader.Syntax.Grammar.Markup

/-!
# The grammar

Reads a whole source into a concrete tree. Recursive constructs are read at most as deeply as
the source is long, which the depth bound of `Grammar.rule` expresses.
-/

namespace SubmissionGrader.Syntax

namespace Grammar

def ruleStep (self : Rules) : Rules
  | .expression ending branch => expression self ending branch
  | .operand ending branch bang => operand self ending branch bang
  | .operation level ending branch => operation self level ending branch
  | .type ending => type self ending
  | .typeOperand ending => indexedPrimary self ending
  | .pattern => pattern self
  | .parameters => parameters self
  | .block => block self
  | .statement => statement self
  | .element => element self

/-- The reader for a construct with at most `depth` constructs around one another. -/
def rule : Nat → Rules
  | 0, _ => Reader.refuse
  | depth + 1, r => fun c => ruleStep (rule depth) r c

/-- The number of constructs that can be nested around a single character. -/
def layers : Nat := 8

/-- The concrete tree of a source, or the furthest offset at which a token was refused. -/
def read (source : List Char) : Outcome Concrete :=
  let start := Cursor.start source
  program (rule (layers * (start.size + 2))) start

end Grammar

end SubmissionGrader.Syntax
