import SubmissionGrader.Syntax.Position

/-!
# Syntax errors

Why a source is refused, and where. The wording of every error is in `Fault.message`.
-/

namespace SubmissionGrader.Syntax

inductive Fault where
  /-- The grammar misses a token. -/
  | expected (symbol : String)
  /-- The grammar has no place for a token. -/
  | unexpectedToken (text : String)
  /-- The grammar needs more text. -/
  | unexpectedEnd
  /-- The grammar refuses the source without naming a place. -/
  | unexpected
  | returnOutsideFunction
  | reservedWord (word : String)
  | invalidTarget
  | missingDigits
  | misplacedSeparator
  | invalidIdentifier
  | unclosedFragment
  | unclosedElement (tag : String)
  | tooDeep (limit : Nat)
  deriving DecidableEq, Repr

namespace Fault

def message : Fault → String
  | expected symbol => "Expected \"" ++ symbol ++ "\""
  | unexpectedToken text => "Unexpected token \"" ++ text ++ "\""
  | unexpectedEnd => "Unexpected end of input"
  | unexpected => "Unexpected token"
  | returnOutsideFunction => "'return' outside of function"
  | reservedWord word => "Unexpected reserved word '" ++ word ++ "'"
  | invalidTarget => "Invalid left-hand side in assignment"
  | missingDigits => "Expected number in radix"
  | misplacedSeparator => "Numeric separator is not allowed here"
  | invalidIdentifier => "Invalid identifier"
  | unclosedFragment => "Expected corresponding closing tag for JSX fragment"
  | unclosedElement tag => "Expected corresponding JSX closing tag for <" ++ tag ++ ">"
  | tooDeep limit => "Maximum nesting depth of " ++ toString limit ++ " exceeded"

/-- Faults that the grammar itself finds. -/
def isGrammatical : Fault → Bool
  | expected _ | unexpectedToken _ | unexpectedEnd => true
  | _ => false

end Fault

/-- A fault and its place: line and column count from one. -/
structure SyntaxError where
  fault : Fault
  line : Nat
  column : Nat
  deriving DecidableEq, Repr

namespace SyntaxError

/-- The wording of the error without its place. -/
def message (e : SyntaxError) : String := e.fault.message

def text (e : SyntaxError) : String :=
  e.message ++ " (" ++ toString e.line ++ ":" ++ toString e.column ++ ")"

/-- A fault at the start of a concrete node; the column counts characters. -/
def atNode (source : List Char) (t : Concrete) (fault : Fault) : SyntaxError :=
  ⟨fault, (Position.ofOffset source t.span.start).row + 1,
    characterColumn source t.span.start + 1⟩

end SyntaxError

end SubmissionGrader.Syntax
