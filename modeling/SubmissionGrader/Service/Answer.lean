import SubmissionGrader.Checker
import SubmissionGrader.Features.Extraction
import SubmissionGrader.Service.Response

/-!
# Answering requests

A text is decoded into a request, or it is rejected by a response that carries the request's id
where there is one. What is said of a text that is no JSON is left open (`explain`). A request is
answered by itself: nothing that came before it matters.
-/

namespace SubmissionGrader.Request

/-- The id in a JSON value; empty if there is none. -/
def idOf (value : Json) : String :=
  match value.member? "id" with
  | some (.string id) => id
  | _ => ""

/-- The request that a text denotes, or the response that rejects the text. -/
def decode (text : String) (explain : String → Option String := fun _ => none) :
    Except Response Request :=
  match ofText? text with
  | some request => .ok request
  | none =>
    match Json.ofText? text with
    | some value => .error (.refused (idOf value) .invalid)
    | none => .error (.refused "" (.malformed (explain text)))

def givenCode (r : Request) : Option String := r.code.filter (· ≠ "")

def givenChecker (r : Request) : Option String := r.checker.filter (· ≠ "")

variable [Syntax.Language]

def answer (r : Request) (maxDepth : Nat) : Response :=
  match r.type, r.givenCode, r.givenChecker with
  | .parse, some code, _ => .parsed r.id (.analyzeWithDepth code maxDepth)
  | .evaluate, some code, some checker =>
    .evaluated r.id (Checker.evaluate (.analyzeWithDepth code maxDepth) checker)
  | _, _, _ => .refused r.id .invalid

def answerText (explain : String → Option String) (text : String) (maxDepth : Nat) : Response :=
  match decode text explain with
  | .ok request => request.answer maxDepth
  | .error response => response

/-- A response carries the id of its request. -/
@[simp] theorem answer_id (r : Request) (maxDepth : Nat) : (r.answer maxDepth).id = r.id := by
  rw [answer]
  split <;> rfl

end SubmissionGrader.Request
