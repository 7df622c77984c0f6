import SubmissionGrader.Checker.Error
import SubmissionGrader.Json.Basic
import SubmissionGrader.Number.Decimal
import SubmissionGrader.Pattern

/-!
# Test results

A verdict says whether a case passed, and why not. A result is a verdict in words, beside the
description of its case. Metrics count the results of a suite.
-/

namespace SubmissionGrader

inductive Verdict where
  | passed
  | failed
  | unknownType (tag : String)
  | noChecker
  | refusedSource (message : String)
  | checkerError (error : CheckerError)
  | noPattern
  | pattern (finding : Pattern.Finding)
  | noValidator
  | validatorError (message : String)
  | crashed (message : Option String)
  deriving DecidableEq, Repr

namespace Verdict

def isPass : Verdict → Bool
  | passed => true
  | pattern finding => finding.passed
  | _ => false

/-- The verdict in words, where it needs any. -/
def message? : Verdict → Option String
  | passed | failed => none
  | unknownType tag => some ("Unknown test type: " ++ tag)
  | noChecker => some "No checker expression provided"
  | refusedSource message => some ("Code parsing failed: " ++ message)
  | checkerError error => some ("Checker evaluation failed: " ++ error.message)
  | noPattern => some "No pattern provided"
  | pattern finding => some finding.message
  | noValidator => some "No validator function provided"
  | validatorError message => some ("Validator error: " ++ message)
  | crashed message => some ("Test error: " ++ message.getD "Unknown error")

end Verdict

structure TestResult where
  description : String
  passed : Bool
  message : Option String
  deriving DecidableEq, Repr

namespace TestResult

def ofVerdict (description : String) (v : Verdict) : TestResult :=
  ⟨description, v.isPass, v.message?⟩

def pass (description : String) : TestResult := ⟨description, true, none⟩

def fail (description message : String) : TestResult := ⟨description, false, some message⟩

def toJson (r : TestResult) : Json :=
  .object <|
    [("description", .string r.description), ("passed", .boolean r.passed)] ++
    Json.optional "message" .string r.message

end TestResult

structure Metrics where
  passed : Nat
  failed : Nat
  total : Nat
  /-- The percentage of passed cases; zero if there are none. -/
  passRate : Binary64
  deriving DecidableEq, Repr

namespace Metrics

def ofResults (results : List TestResult) : Metrics :=
  let total := results.length
  let passed := (results.filter TestResult.passed).length
  { passed
    failed := total - passed
    total
    passRate :=
      if total = 0 then .zero
      else .multiply (.divide (.ofNat passed) (.ofNat total)) (.ofNat 100) }

def text (m : Metrics) : String :=
  toString m.passed ++ "/" ++ toString m.total ++ " passed (" ++ m.passRate.textToTenth ++ "%)"

end Metrics

/-- Whether there are results and all of them passed. -/
def allPassed (results : List TestResult) : Bool :=
  !results.isEmpty && results.all TestResult.passed

end SubmissionGrader
