import SubmissionGrader.Checker.Token

/-!
# Errors of checkers

Why a checker does not compile, or why it has no value. The wording is in `CheckerError.message`.
-/

namespace SubmissionGrader.Checker

inductive ValueType where
  | boolean
  | number
  | string
  | array
  | null
  | undefined
  deriving DecidableEq, Repr

def ValueType.name : ValueType → String
  | boolean => "boolean"
  | number => "number"
  | string => "string"
  | array => "array"
  | null => "null"
  | undefined => "undefined"

/-- An operation on a value of a type that does not support it. -/
inductive Misuse where
  | length (of : ValueType)
  | index (of : ValueType)
  | includes (of : ValueType)
  deriving DecidableEq, Repr

def Misuse.message : Misuse → String
  | length type => "cannot read length of " ++ type.name
  | index type => "cannot index into " ++ type.name
  | includes type => "includes is not a function on " ++ type.name

/-- The limit on nesting: brackets around an operand, `!` and links of chains in front of it. -/
def maxDepth : Nat := 64

end SubmissionGrader.Checker

namespace SubmissionGrader

open Checker

/-- Why a checker does not compile or has no value. -/
inductive CheckerError where
  | malformed (offset : Nat) (cause : Fault)
  | tooDeep
  | undefinedName (name : String)
  | misuse (cause : Misuse)
  | brokenContext (message : String)
  deriving DecidableEq, Repr

namespace CheckerError

def message : CheckerError → String
  | malformed offset cause =>
    "syntax error at offset " ++ toString offset ++ ": " ++ cause.message
  | tooDeep => "expression nesting exceeds " ++ toString maxDepth ++ " levels"
  | undefinedName name => name ++ " is not defined"
  | misuse cause => "type error: " ++ cause.message
  | brokenContext message => "context is unavailable: " ++ message

/-- Whether the text of the checker alone is at fault. -/
def isSyntactic : CheckerError → Bool
  | malformed _ _ | tooDeep => true
  | _ => false

end CheckerError

end SubmissionGrader
