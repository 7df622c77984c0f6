import SubmissionGrader.Syntax.Parse

/-!
# Configurations

A configuration says how submissions are graded. What it leaves open has a default.
-/

namespace SubmissionGrader

structure GraderConfig where
  /-- Sources that are nested deeper are refused. -/
  maxNestingDepth : Nat := Syntax.defaultMaxDepth
  /-- The number of contexts to keep; with zero, none is kept. -/
  cacheCapacity : Nat := 0
  /-- The number of occurrences that a pattern needs where its case gives none. -/
  defaultMinCount : Nat := 1
  logCases : Bool := true
  /-- The directory of the suites. -/
  suiteDir : String := "suites"
  deriving DecidableEq, Repr

end SubmissionGrader
