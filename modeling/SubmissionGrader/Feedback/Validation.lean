import SubmissionGrader.Feedback.Brackets
import SubmissionGrader.Syntax.Parse
import SubmissionGrader.Text.Blank
import SubmissionGrader.Text.Search

/-!
# Validating code

Errors and warnings for an editor: whether a source is blank, has balanced brackets and parses, and
whether it declares variables by `var`.
-/

namespace SubmissionGrader.Feedback

open Syntax

inductive CodeError where
  | blank
  | brackets (fault : BracketFault)
  | malformed (error : SyntaxError)
  deriving DecidableEq, Repr

def CodeError.message : CodeError → String
  | blank => "Code is empty"
  | brackets fault => fault.message
  | malformed error => "Syntax error: " ++ error.text

def varWarning : String := "Using \"var\" is discouraged, consider using \"let\" or \"const\""

structure Validation where
  errors : List CodeError
  usesVar : Bool
  deriving DecidableEq, Repr

namespace Validation

def hasErrors (v : Validation) : Bool := !v.errors.isEmpty

def warnings (v : Validation) : List String := if v.usesVar then [varWarning] else []

end Validation

def declaresVar (tree : Node) : Bool :=
  tree.walk (fun found n => found || n.kind == .variableDeclaration "var") false

/-- The validation of a source of which the result of parsing is given. A source that does not
parse uses `var` if the word occurs in it. -/
def validationOf (source : String) (result : Except SyntaxError Node) : Validation :=
  let errors := (if Text.isBlankText source then [.blank] else []) ++
    ((bracketFault? source).map .brackets).toList
  match result with
  | .ok tree => ⟨errors, declaresVar tree⟩
  | .error error => ⟨errors ++ [.malformed error], Text.contains source "var "⟩

/-- The errors of a source, and whether it uses `var`. -/
def validate [Language] (source : String) : Validation := validationOf source (parse source)

end SubmissionGrader.Feedback
