import SubmissionGrader.Checker.Error
import SubmissionGrader.Checker.Expression

/-!
# Parsing checkers

The language is stratified: `||` binds least, then `&&`, the equalities, the orderings, `!`, and the
suffixes `.length`, `.includes(…)` and `[…]`. A parser gets a budget of levels that it may open;
every link of a chain, every `!`, every suffix and every bracket opens one. A function in `Parser`
gives the parsed expression and the tokens behind it.
-/

namespace SubmissionGrader.Checker

/-- A parser of a part of an expression, for each budget of levels. -/
abbrev Parser := Nat → Tokens → Except CheckerError (Expression × Tokens)

namespace Tokens

/-- The tokens behind the first one. A fault of the text comes up as soon as it is next. -/
def advance : Tokens → Except CheckerError Tokens
  | cons _ _ (fault offset cause) => .error (.malformed offset cause)
  | cons _ _ rest => .ok rest
  | tokens => .ok tokens

def operator? : Tokens → Option Operator
  | cons (.operator operator) _ _ => some operator
  | _ => none

def offset : Tokens → Nat
  | cons _ offset _ => offset
  | finish offset => offset
  | fault offset _ => offset

def unexpected : Tokens → CheckerError
  | cons token offset _ => .malformed offset (.unexpectedToken token)
  | finish offset => .malformed offset .unexpectedEnd
  | fault offset cause => .malformed offset cause

def expect (tokens : Tokens) (operator : Operator) : Except CheckerError Tokens :=
  if tokens.operator? = some operator then tokens.advance
  else .error (.malformed tokens.offset (.expectedOperator operator))

end Tokens

namespace Parser

def deeper (parser : Parser) : Parser
  | 0, _ => .error .tooDeep
  | budget + 1, tokens => parser budget tokens

/-- The links of a chain of operands behind its first one, joined from the left. -/
def links (join? : Operator → Option (Expression → Expression → Expression)) (operand : Parser) :
    Nat → Expression → Tokens → Except CheckerError (Expression × Tokens)
  | budget, left, tokens =>
    match tokens.operator?.bind join? with
    | none => .ok (left, tokens)
    | some join => do
      let behind ← tokens.advance
      match budget with
      | 0 => .error .tooDeep
      | budget + 1 =>
        let (right, rest) ← operand budget behind
        links join? operand budget (join left right) rest

def chain (join? : Operator → Option (Expression → Expression → Expression)) (operand : Parser) :
    Parser := fun budget tokens => do
  let (first, rest) ← operand budget tokens
  links join? operand budget first rest

def word : String → Expression
  | "true" => .boolean true
  | "false" => .boolean false
  | "null" => .null
  | "undefined" => .undefined
  | name => .name name

/-- A literal, a name or an expression in parentheses. -/
def primary (nested : Parser) : Parser := fun budget tokens =>
  match tokens with
  | .cons (.number value) _ _ => do return (.number value, ← tokens.advance)
  | .cons (.text value) _ _ => do return (.text value, ← tokens.advance)
  | .cons (.name value) _ _ => do return (word value, ← tokens.advance)
  | .cons (.operator .openParen) _ _ => do
    let (inner, rest) ← nested.deeper budget (← tokens.advance)
    return (inner, ← rest.expect .closeParen)
  | _ => .error tokens.unexpected

def property (nested : Parser) (target : Expression) : Parser := fun budget tokens => do
  let behind ← tokens.advance
  match tokens with
  | .cons (.name "length") _ _ => return (.length target, behind)
  | .cons (.name "includes") _ _ =>
    let (needle, rest) ← nested.deeper budget (← behind.expect .openParen)
    return (.includes target needle, ← rest.expect .closeParen)
  | .cons (.name name) _ _ => .error (.malformed tokens.offset (.unsupportedProperty name))
  | _ => .error (.malformed tokens.offset .expectedProperty)

def position (nested : Parser) (target : Expression) : Parser := fun budget tokens => do
  let (position, rest) ← nested.deeper budget tokens
  return (.index target position, ← rest.expect .closeBracket)

def suffixes (nested : Parser) : Nat → Expression → Tokens →
    Except CheckerError (Expression × Tokens)
  | budget, target, tokens =>
    match tokens.operator? with
    | some .point => do
      let behind ← tokens.advance
      match budget with
      | 0 => .error .tooDeep
      | budget + 1 =>
        let (target, rest) ← property nested target budget behind
        suffixes nested budget target rest
    | some .openBracket => do
      let behind ← tokens.advance
      match budget with
      | 0 => .error .tooDeep
      | budget + 1 =>
        let (target, rest) ← position nested target budget behind
        suffixes nested budget target rest
    | _ => .ok (target, tokens)

def suffixed (nested : Parser) : Parser := fun budget tokens => do
  let (target, rest) ← primary nested budget tokens
  suffixes nested budget target rest

/-- A suffixed expression, negated any number of times. -/
def negated (nested : Parser) : Parser
  | budget, tokens =>
    match tokens.operator? with
    | some .not => do
      let behind ← tokens.advance
      match budget with
      | 0 => .error .tooDeep
      | budget + 1 =>
        let (operand, rest) ← negated nested budget behind
        return (.not operand, rest)
    | _ => suffixed nested budget tokens

def joinOrdering? : Operator → Option (Expression → Expression → Expression)
  | .compare comparison => if comparison.isEquality then none else some (.compare comparison)
  | _ => none

def joinEquality? : Operator → Option (Expression → Expression → Expression)
  | .compare comparison => if comparison.isEquality then some (.compare comparison) else none
  | _ => none

def joinAnd? : Operator → Option (Expression → Expression → Expression)
  | .and => some .and
  | _ => none

def joinOr? : Operator → Option (Expression → Expression → Expression)
  | .or => some .or
  | _ => none

/-- A whole expression, given the parser of the expressions inside brackets. -/
def disjunction (nested : Parser) : Parser :=
  chain joinOr? <| chain joinAnd? <| chain joinEquality? <| chain joinOrdering? <| negated nested

/-- A whole expression with at most `n` brackets around one another. -/
def expression : Nat → Parser
  | 0 => disjunction fun _ _ => .error .tooDeep
  | n + 1 => disjunction (expression n)

end Parser

/-- The expression that the tokens make up. Every bracket opens a level, so there are never more
of them around one another than levels. -/
def parseTokens : Tokens → Except CheckerError Expression
  | .finish _ => .error (.malformed 0 .empty)
  | .fault offset cause => .error (.malformed offset cause)
  | tokens => do
    match ← Parser.expression maxDepth maxDepth tokens with
    | (expression, .finish _) => return expression
    | (_, rest) => .error rest.unexpected

def parse (source : String) : Except CheckerError Expression :=
  parseTokens (.ofChars source.toList)

end SubmissionGrader.Checker
