import SubmissionGrader.Service.Answer

/-!
# The analysis service

The service parses code and evaluates checkers, on the spot or through a host. On the spot it needs
no requests; through a host, the response to a request becomes the result of the service.
-/

namespace SubmissionGrader

inductive ServiceError where
  | parse (message : String)
  | evaluate (message : String)
  /-- The response does not fit the request. -/
  | unfitting (type : RequestType)
  | cancelled
  | hostClosed
  deriving DecidableEq, Repr

def ServiceError.message : ServiceError → String
  | parse message => "parse failed: " ++ message
  | evaluate message => "evaluation failed: " ++ message
  | unfitting .parse => "protocol error: parse response without result"
  | unfitting .evaluate => "protocol error: evaluate response without verdict"
  | cancelled => Refusal.cancelled.message
  | hostClosed => Refusal.closed.message

namespace Analysis

variable [Syntax.Language]

def parseCode (maxDepth : Nat) (code : String) : Except ServiceError FeatureContext :=
  if code = "" then .error (.parse Refusal.invalid.message)
  else .ok (.analyzeWithDepth code maxDepth)

def evaluateChecker (maxDepth : Nat) (code checker : String) : Except ServiceError Bool :=
  if code = "" ∨ checker = "" then .error (.evaluate Refusal.invalid.message)
  else .ok (Checker.evaluate (.analyzeWithDepth code maxDepth) checker)

/-- The error that an error response to a request of some type stands for. -/
def errorOf (type : RequestType) (response : Response) : ServiceError :=
  if response.isCancelled then .cancelled
  else
    match type with
    | .parse => .parse (response.error.getD "")
    | .evaluate => .evaluate (response.error.getD "")

def partOf {α : Type} (type : RequestType) (part : Response → Option α) (response : Response) :
    Except ServiceError α :=
  match response.type with
  | .error => .error (errorOf type response)
  | .success =>
    match part response with
    | some value => .ok value
    | none => .error (.unfitting type)

def contextOf (response : Response) : Except ServiceError FeatureContext :=
  partOf .parse Response.result response

def verdictOf (response : Response) : Except ServiceError Bool :=
  partOf .evaluate Response.passed response

end Analysis

end SubmissionGrader
