import SubmissionGrader.Json.Basic
import SubmissionGrader.Json.Record

/-!
# Requests

A request asks for the feature context of a piece of code, or for the verdict of a checker on it.
Its id comes back with the response. `Request.ofText?` and `Request.toJson` read and write the
record that stands for a request in JSON.
-/

namespace SubmissionGrader

inductive RequestType where
  | parse
  | evaluate
  deriving DecidableEq, Repr

namespace RequestType

def name : RequestType → String
  | parse => "parse"
  | evaluate => "evaluate"

def ofName? : String → Option RequestType
  | "parse" => some parse
  | "evaluate" => some evaluate
  | _ => none

@[simp] theorem ofName?_name (t : RequestType) : ofName? t.name = some t := by cases t <;> rfl

end RequestType

/-- A request as it is written. Which fields it needs depends on its type. -/
structure Request where
  type : RequestType
  id : String
  code : Option String := none
  checker : Option String := none
  deriving DecidableEq, Repr

namespace Json.Raw

/-- The text that names a case of an enumeration: a string, or the only key of an object whose
value is `null`. -/
def caseName? : Raw → Option String
  | object [(key, null)] => (assemble? key).map String.ofList
  | value => value.text?

end Json.Raw

namespace Request

open Json (Fields Raw)

def fieldNames : List (List String) := [["type"], ["id"], ["code"], ["checker"]]

def fields : Fields Request := do
  return {
    type := ← .required fun raw => do RequestType.ofName? (← raw.caseName?)
    id := ← .required Raw.text?
    code := ← .optional Raw.text?
    checker := ← .optional Raw.text? }

def ofText? (text : String) : Option Request := do
  Fields.run? .refused fieldNames fields (← Raw.read? text)

/-- The request as a JSON object. Fields without a value are left out. -/
def toJson (r : Request) : Json :=
  .object <|
    [("type", .string r.type.name), ("id", .string r.id)] ++
    Json.optional "code" .string r.code ++
    Json.optional "checker" .string r.checker

end Request

end SubmissionGrader
