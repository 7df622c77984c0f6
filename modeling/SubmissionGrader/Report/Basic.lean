import SubmissionGrader.Config.Basic
import SubmissionGrader.Features.Encoding
import SubmissionGrader.Features.Extraction
import SubmissionGrader.Feedback.Quality
import SubmissionGrader.Feedback.Validation
import SubmissionGrader.Grading.Result
import SubmissionGrader.Json.Sorted
import SubmissionGrader.Report.TextTable

/-!
# Reports

What is reported about a graded or an analyzed submission, in JSON and in text.
-/

namespace SubmissionGrader

namespace Feedback

def Validation.toJson (v : Validation) : Json :=
  .object
    [("hasErrors", .boolean v.hasErrors), ("errors", .strings (v.errors.map CodeError.message)),
     ("warnings", .strings v.warnings)]

def Quality.toJson (q : Quality) : Json :=
  .object
    [("lines", .natural q.lines), ("characters", .natural q.characters),
     ("hasConsistentIndent", .boolean q.hasConsistentIndent), ("indentStyle", .string q.indentStyle),
     ("namingCompliance", .natural q.namingCompliance), ("namingIssues", .strings q.namingIssues),
     ("complexity", .natural q.complexity)]

end Feedback

namespace Metrics

/-- A percentage as a JSON number; a whole one gets a zero behind the point. -/
def rateJson (rate : Binary64) : Json :=
  let text := rate.text
  .number (if Text.contains text "." then text else text ++ ".0")

def toJson (m : Metrics) : Json :=
  .object
    [("passed", .natural m.passed), ("failed", .natural m.failed), ("total", .natural m.total),
     ("passRate", rateJson m.passRate)]

end Metrics

namespace Report

def resultName (r : TestResult) : String := if r.passed then "PASS" else "FAIL"

def grading (suiteId gradedAt : String) (results : List TestResult) : Json :=
  Json.sorted <| .object
    [("suite", .string suiteId), ("gradedAt", .string gradedAt),
     ("results", .array (results.map TestResult.toJson)),
     ("metrics", (Metrics.ofResults results).toJson), ("allPassed", .boolean (allPassed results))]

def table (results : List TestResult) : TextTable :=
  { head := ["#", "Case", "Result", "Message"]
    rows := results.zipIdx.map fun (r, i) =>
      [toString (i + 1), r.description, resultName r, r.message.getD ""] }

/-- The report on a source of which the concrete tree is given: its features under the configured
nesting limit, its validation under the default limit, and its quality. -/
def analysisOf (config : GraderConfig) (source : String) (grammar : Syntax.Concrete) : Json :=
  let under (limit : Nat) := Syntax.parseConcrete source.toList limit grammar
  Json.sorted <| .object
    [("context", (FeatureContext.ofResult (under config.maxNestingDepth)).toJson),
     ("validation", (Feedback.validationOf source (under Syntax.defaultMaxDepth)).toJson),
     ("quality", (Feedback.quality source).toJson)]

def analysis [Syntax.Language] (config : GraderConfig) (source : String) : Json :=
  analysisOf config source (Syntax.Language.concrete source.toList)

end Report

end SubmissionGrader
