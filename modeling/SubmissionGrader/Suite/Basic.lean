import SubmissionGrader.Files.Tree
import SubmissionGrader.Grading.Case
import SubmissionGrader.Toml.Encoding

/-!
# Test suites

A suite is a list of test cases with a name. It is written in a file, in JSON if the extension of
the file says so and in TOML otherwise.
-/

namespace SubmissionGrader

structure Suite where
  id : String
  name : String
  description : String
  cases : List TestCase

inductive SuiteFormat where
  | toml
  | json
  deriving DecidableEq, Repr

namespace SuiteFormat

def name : SuiteFormat → String
  | toml => "TOML"
  | json => "JSON"

/-- The format of the file at a path. -/
def ofPath (path : String) : SuiteFormat :=
  if Files.extension? path = some "json" then .json else .toml

end SuiteFormat

inductive SuiteError where
  | unreadable (path : String) (fault : FileFault)
  | malformed (format : SuiteFormat) (path : String)
  | notDirectory (path : String)
  | unlistable (path : String) (fault : FileFault)
  deriving DecidableEq, Repr

namespace SuiteError

def message : SuiteError → String
  | unreadable path _ => "failed to read suite file: " ++ path
  | malformed format path => "failed to parse " ++ format.name ++ ": " ++ path
  | notDirectory path => "not a directory: " ++ path
  | unlistable path _ => "failed to read directory: " ++ path

def cause? : SuiteError → Option String
  | unreadable _ fault | unlistable _ fault => some fault.message
  | malformed _ _ | notDirectory _ => none

end SuiteError

namespace Suite

open Json (Fields Raw Surplus)

def headFields : Fields (String × String × String) := do
  return (← .required Raw.text?, ← .required Raw.text?, ← .withDefault "" Raw.text?)

def fields (surplus : Surplus) : Fields Suite := do
  let (id, name, description) ←
    .required (Fields.run? surplus [["id"], ["name"], ["description"]] headFields)
  let cases ← .withDefault [] (Raw.listOf? (TestCase.ofRaw? surplus))
  return { id, name, description, cases }

def ofRaw? (surplus : Surplus) (raw : Raw) : Option Suite :=
  Fields.run? surplus [["suite"], ["cases"]] (fields surplus) raw

def ofText? (format : SuiteFormat) (content : String) : Option Suite :=
  match format with
  | .json => do ofRaw? .refused (← Raw.read? content)
  | .toml => do ofRaw? .ignored (← Toml.readRaw? content)

def parse (path content : String) : Except SuiteError Suite :=
  let format := SuiteFormat.ofPath path
  match ofText? format content with
  | some suite => .ok suite
  | none => .error (.malformed format path)

def ofFile (path : String) (content : Except FileFault String) : Except SuiteError Suite :=
  match content with
  | .ok content => parse path content
  | .error fault => .error (.unreadable path fault)

end Suite

end SubmissionGrader
