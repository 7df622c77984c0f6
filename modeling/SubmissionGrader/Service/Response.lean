import SubmissionGrader.Features.Encoding
import SubmissionGrader.Service.Request

/-!
# Responses

A response carries the id of the request it belongs to, and a feature context, a verdict or an error
message. `Response.ofText?` and `Response.toJson` read and write the record that stands for a
response in JSON.
-/

namespace SubmissionGrader

inductive ResponseType where
  | success
  | error
  deriving DecidableEq, Repr

namespace ResponseType

def name : ResponseType → String
  | success => "success"
  | error => "error"

def ofName? : String → Option ResponseType
  | "success" => some success
  | "error" => some error
  | _ => none

@[simp] theorem ofName?_name (t : ResponseType) : ofName? t.name = some t := by cases t <;> rfl

end ResponseType

inductive Refusal where
  /-- The type is unknown, or a field that the type needs is missing. -/
  | invalid
  /-- The text of the request is no JSON, for a cause that may be told. -/
  | malformed (cause : Option String)
  | cancelled
  /-- Nobody answers requests any more. -/
  | closed
  deriving DecidableEq, Repr

def Refusal.message : Refusal → String
  | invalid => "Invalid request type or missing parameters"
  | malformed none => "Malformed request"
  | malformed (some cause) => "Malformed request: " ++ cause
  | cancelled => "request cancelled"
  | closed => "host closed"

structure Response where
  type : ResponseType
  id : String
  result : Option FeatureContext := none
  passed : Option Bool := none
  error : Option String := none
  deriving DecidableEq, Repr

namespace Response

def parsed (id : String) (context : FeatureContext) : Response :=
  { type := .success, id, result := some context }

def evaluated (id : String) (passed : Bool) : Response :=
  { type := .success, id, passed := some passed }

def refused (id : String) (refusal : Refusal) : Response :=
  { type := .error, id, error := some refusal.message }

def isSuccess (r : Response) : Bool := r.type == .success

def isCancelled (r : Response) : Bool :=
  r.type == .error && r.error == some Refusal.cancelled.message

open Json (Fields Raw)

def fieldNames : List (List String) := [["type"], ["id"], ["result"], ["passed"], ["error"]]

def fields : Fields Response := do
  return {
    type := ← .required fun raw => do ResponseType.ofName? (← raw.caseName?)
    id := ← .required Raw.text?
    result := ← .optional FeatureContext.ofRaw?
    passed := ← .optional Raw.boolean?
    error := ← .optional Raw.text? }

def ofText? (text : String) : Option Response := do
  Fields.run? .refused fieldNames fields (← Raw.read? text)

/-- The response as a JSON object. Fields without a value are left out. -/
def toJson (r : Response) : Json :=
  .object <|
    [("type", .string r.type.name), ("id", .string r.id)] ++
    Json.optional "result" FeatureContext.toJson r.result ++
    Json.optional "passed" .boolean r.passed ++
    Json.optional "error" .string r.error

def line (r : Response) : String := r.toJson.compact ++ "\n"

end Response

end SubmissionGrader
