import SubmissionGrader.Checker
import SubmissionGrader.Pattern
import SubmissionGrader.Suite.Basic
import SubmissionGrader.Text.Blank

/-!
# Reviewing suites

A review finds mistakes that authors of suites make: cases without a proper description, and cases
that cannot judge a submission as they are.
-/

namespace SubmissionGrader

/-- A mistake in a suite. -/
inductive SuiteFlaw where
  | noCases
  | noDescription
  | sameDescription (description : String)
  | noChecker
  | unknownAttribute (name : String)
  | brokenChecker (error : CheckerError)
  | noPattern
  | plainPattern
  | noValidator
  | unknownType (tag : String)
  deriving DecidableEq, Repr

def SuiteFlaw.message : SuiteFlaw → String
  | noCases => "suite has no cases"
  | noDescription => "description is empty"
  | sameDescription description => "duplicate description: " ++ description
  | noChecker => "ast case has no checker"
  | unknownAttribute name => "checker references unknown attribute: " ++ name
  | brokenChecker error => "checker does not compile: " ++ error.message
  | noPattern => "pattern case has no pattern"
  | plainPattern => "pattern is not a valid regex and will be matched as plain text"
  | noValidator => "runtime case has no validator and will always fail"
  | unknownType tag => "unknown test type: " ++ tag

/-- A mistake with the index of the case that has it, unless it belongs to the suite. -/
structure SuiteWarning where
  case : Option Nat
  flaw : SuiteFlaw
  deriving DecidableEq, Repr

namespace Suite

/-- The mistakes in the description of a case behind others. -/
def describedFlaws (earlier : List String) (description : String) : List SuiteFlaw :=
  if Text.isBlankText description then [.noDescription]
  else if earlier.contains description then [.sameDescription description]
  else []

variable [Pattern.Dialect]

def kindFlaws : TestKind → List SuiteFlaw
  | .ast none => [.noChecker]
  | .ast (some checker) =>
    if Text.isBlankText checker then [.noChecker]
    else
      match Checker.compile (Text.trim checker) with
      | .ok checker => checker.unknownNames.map .unknownAttribute
      | .error error => [.brokenChecker error]
  | .pattern none _ | .pattern (some "") _ => [.noPattern]
  | .pattern (some pattern) _ =>
    if (Pattern.Dialect.program? pattern).isSome then [] else [.plainPattern]
  | .runtime none => [.noValidator]
  | .runtime (some _) => []
  | .unknown tag => [.unknownType tag]

/-- The mistakes in cases, of which the first has the given index and follows others. -/
def caseWarnings (index : Nat) (earlier : List String) : List TestCase → List SuiteWarning
  | [] => []
  | c :: rest =>
    ((describedFlaws earlier c.description ++ kindFlaws c.kind).map fun flaw =>
      ⟨some index, flaw⟩) ++
      caseWarnings (index + 1) (c.description :: earlier) rest

def review (s : Suite) : List SuiteWarning :=
  (if s.cases.isEmpty then [⟨none, .noCases⟩] else []) ++ caseWarnings 0 [] s.cases

end Suite

end SubmissionGrader
