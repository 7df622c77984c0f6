import SubmissionGrader.Checker.Operator
import SubmissionGrader.Number.Binary64

/-!
# Checker expressions
-/

namespace SubmissionGrader.Checker

inductive Expression where
  | number (value : Binary64)
  | text (value : String)
  | boolean (value : Bool)
  | null
  | undefined
  | name (value : String)
  | not (operand : Expression)
  | and (left right : Expression)
  | or (left right : Expression)
  | compare (comparison : Comparison) (left right : Expression)
  | length (target : Expression)
  | index (target position : Expression)
  | includes (target needle : Expression)
  deriving DecidableEq, Repr

namespace Expression

/-- The number of operators, values and names. -/
def size : Expression → Nat
  | not operand => operand.size + 1
  | length target => target.size + 1
  | and left right => left.size + right.size + 1
  | or left right => left.size + right.size + 1
  | compare _ left right => left.size + right.size + 1
  | index target position => target.size + position.size + 1
  | includes target needle => target.size + needle.size + 1
  | number _ | text _ | boolean _ | null | undefined | name _ => 1

/-- The names in the expressions on a stack, from its top down and with repetitions. The operands
of an expression take its place on the stack, the left one on top. -/
def namesOn : List Expression → List String
  | [] => []
  | name value :: stack => value :: namesOn stack
  | not operand :: stack => namesOn (operand :: stack)
  | length target :: stack => namesOn (target :: stack)
  | and left right :: stack => namesOn (left :: right :: stack)
  | or left right :: stack => namesOn (left :: right :: stack)
  | compare _ left right :: stack => namesOn (left :: right :: stack)
  | index target position :: stack => namesOn (target :: position :: stack)
  | includes target needle :: stack => namesOn (target :: needle :: stack)
  | number _ :: stack | text _ :: stack | boolean _ :: stack | null :: stack
  | undefined :: stack => namesOn stack
termination_by stack => stack.foldr (fun e n => e.size + n) 0
decreasing_by all_goals simp only [List.foldr_cons, size]; omega

/-- The largest number of operators above one another. -/
def height : Expression → Nat
  | not operand => operand.height + 1
  | length target => target.height + 1
  | and left right => max left.height right.height + 1
  | or left right => max left.height right.height + 1
  | compare _ left right => max left.height right.height + 1
  | index target position => max target.height position.height + 1
  | includes target needle => max target.height needle.height + 1
  | number _ | text _ | boolean _ | null | undefined | name _ => 0

end Expression

end SubmissionGrader.Checker
