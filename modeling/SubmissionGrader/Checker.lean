import SubmissionGrader.Checker.Evaluation
import SubmissionGrader.Checker.Parse

/-!
# Checkers

A checker is a compiled expression of the checker language. It is tested against the feature context
of a submission. A context without features, because its source was refused, fails every checker.
-/

namespace SubmissionGrader

structure Checker where
  source : String
  expression : Checker.Expression
  deriving DecidableEq, Repr

namespace Checker

/-- The checker that a text denotes. Its names are not resolved yet. -/
def compile (source : String) : Except CheckerError Checker :=
  (parse source).map fun expression => ⟨source, expression⟩

/-- The names in a checker, from left to right and with repetitions. -/
def names (c : Checker) : List String := Expression.namesOn [c.expression]

/-- The names in a checker that no attribute has. -/
def unknownNames (c : Checker) : List String := c.names.filter fun name => !isAttributeName name

def eval (c : Checker) (context : FeatureContext) : Except CheckerError Value :=
  match context.parseError with
  | some message => .error (.brokenContext message)
  | none => c.expression.eval context

def test (c : Checker) (context : FeatureContext) : Except CheckerError Bool :=
  (c.eval context).map Value.isTruthy

def tryEvaluate (context : FeatureContext) (source : String) : Except CheckerError Bool := do
  (← compile source).test context

/-- Compiles and tests a checker; an error counts as failure. -/
def evaluate (context : FeatureContext) (source : String) : Bool :=
  match tryEvaluate context source with
  | .ok passed => passed
  | .error _ => false

def validate (source : String) : Except CheckerError Unit := (compile source).map fun _ => ()

def examples : List (String × String) :=
  [("Has function declaration", "hasFunctionDeclaration"),
   ("Has return statement", "hasReturnStatement"),
   ("Returns JSX element", "isJSXElement"),
   ("Has JSX in code", "hasJSX"),
   ("Uses useState hook", "usesUseState"),
   ("Uses useEffect hook", "usesUseEffect"),
   ("Returns specific element (div)", "jsxElementName === \"div\""),
   ("Contains multiple JSX elements", "jsxElements.length > 1"),
   ("Has at least one function", "functionNames.length > 0")]

end Checker

end SubmissionGrader
