import SubmissionGrader.Json.Basic
import SubmissionGrader.Json.Record

/-!
# Test cases

A test case judges a submission in one of several ways, which its type names. In JSON a case is a
record; `TestCase.ofRaw?` and `TestCase.toJson` read and write it. Validators are never written.
-/

namespace SubmissionGrader

inductive ValidatorOutcome where
  | verdict (passed : Bool)
  | refused (message : String)
  /-- The validator ended abnormally, perhaps with a message. -/
  | crashed (message : Option String)
  deriving DecidableEq, Repr

/-- A judge that a lesson supplies. -/
abbrev Validator := String → ValidatorOutcome

inductive TestKind where
  | ast (checker : Option String)
  | pattern (pattern : Option String) (leastCount : Option Nat)
  | runtime (validator : Option Validator)
  | unknown (tag : String)

namespace TestKind

def tag : TestKind → String
  | ast _ => "ast"
  | pattern _ _ => "pattern"
  | runtime _ => "runtime"
  | unknown tag => tag

def isAst : TestKind → Bool
  | ast _ => true
  | _ => false

/-- The kind with the validator forgotten. -/
def withoutValidator : TestKind → TestKind
  | runtime _ => runtime none
  | kind => kind

end TestKind

structure TestCase where
  description : String
  kind : TestKind

namespace TestCase

def ast (description checker : String) : TestCase := ⟨description, .ast (some checker)⟩

def pattern (description pattern : String) (minCount : Option UInt32) : TestCase :=
  ⟨description, .pattern (some pattern) (minCount.map UInt32.toNat)⟩

def runtime (description : String) (validator : Validator) : TestCase :=
  ⟨description, .runtime (some validator)⟩

end TestCase

/-- A test case as it is written: all fields, whichever the type uses. -/
structure CaseRecord where
  type : String
  description : String := ""
  checker : Option String := none
  pattern : Option String := none
  minCount : Option Nat := none
  deriving DecidableEq, Repr

namespace CaseRecord

/-- The case that a record stands for. Fields that the type does not use are dropped. -/
def toCase (r : CaseRecord) : TestCase :=
  ⟨r.description,
    match r.type with
    | "ast" => .ast r.checker
    | "pattern" => .pattern r.pattern r.minCount
    | "runtime" => .runtime none
    | tag => .unknown tag⟩

def ofCase (c : TestCase) : CaseRecord :=
  match c.kind with
  | .ast checker => { type := "ast", description := c.description, checker }
  | .pattern pattern minCount =>
    { type := "pattern", description := c.description, pattern, minCount }
  | .runtime _ => { type := "runtime", description := c.description }
  | .unknown tag => { type := tag, description := c.description }

/-- The names of the fields; the last one has two spellings. -/
def fieldNames : List (List String) :=
  [["type"], ["description"], ["checker"], ["pattern"], ["minCount", "min_count"]]

def maxCount : Nat := UInt32.size - 1

open Json (Fields Raw)

def fields : Fields CaseRecord := do
  return {
    type := ← .required Raw.text?
    description := ← .withDefault "" Raw.text?
    checker := ← .optional Raw.text?
    pattern := ← .optional Raw.text?
    minCount := ← .optional (Raw.natural? maxCount) }

/-- The record as a JSON object. Fields without a value are left out. -/
def toJson (r : CaseRecord) : Json :=
  .object <|
    [("type", .string r.type), ("description", .string r.description)] ++
    Json.optional "checker" .string r.checker ++
    Json.optional "pattern" .string r.pattern ++
    Json.optional "minCount" .natural r.minCount

end CaseRecord

namespace TestCase

def ofRaw? (surplus : Json.Surplus) (raw : Json.Raw) : Option TestCase :=
  (Json.Fields.run? surplus CaseRecord.fieldNames CaseRecord.fields raw).map CaseRecord.toCase

def ofText? (text : String) : Option TestCase := do ofRaw? .refused (← Json.Raw.read? text)

def toJson (c : TestCase) : Json := (CaseRecord.ofCase c).toJson

end TestCase

end SubmissionGrader
