import SubmissionGrader.Syntax.Grammar.Lexeme

/-!
# Automatic semicolons

A statement may end without a semicolon at the end of the source, before a closing brace, or at a
line end after which the next token cannot continue it. The decision looks at the characters that
follow and at the construct that ends.
-/

namespace SubmissionGrader.Syntax

/-- What the end of a construct means for automatic semicolons. -/
inductive Ending where
  /-- Inside brackets no semicolon is inserted. -/
  | closed
  /-- The construct is a type or a keyword, which a following bracket does not continue. -/
  | statement
  /-- The construct is an expression, which a following bracket continues. -/
  | expression
  /-- The construct is a function signature, which a following brace continues. -/
  | signature
  deriving DecidableEq, Repr

namespace Semicolon

open Text

/-- The text behind white space and comments; `none` before a lone slash. -/
def afterComments : Nat → List Char → Option (List Char)
  | 0, cs => some cs
  | fuel + 1, cs =>
    match cs.dropWhile isAsciiBlank with
    | '/' :: '/' :: rest => afterComments fuel (rest.dropWhile fun c => c != '\n' && c != '\x00')
    | '/' :: '*' :: rest =>
      match Lexeme.blockEnd rest with
      | 0 => some []
      | n + 1 => afterComments fuel (rest.drop (n + 1))
    | '/' :: _ => none
    | rest => some rest

/-- Whether the word that follows is no operator. Only letters count as continuing a word. -/
def startsNoOperator : List Char → Bool
  | 'i' :: 'n' :: rest =>
    match rest with
    | c :: _ =>
      if !c.isAlpha then false
      else if "stanceof".toList.isPrefixOf rest then
        match rest.drop 8 with
        | d :: _ => d.isAlpha
        | [] => false
      else true
    | [] => false
  | _ => true

/-- Whether a line end is a semicolon, given the text of the next line. -/
def beforeLine (ending : Ending) (cs : List Char) : Bool :=
  match cs with
  | [] => true
  | c :: rest =>
    if "`,.;*%><=?^|&/:".toList.contains c then false
    else if c == '{' then ending != .signature
    else if c == '(' || c == '[' then ending != .expression
    else if c == '+' then rest.head? == some '+'
    else if c == '-' then rest.head? == some '-'
    else if c == '!' then rest.head? != some '='
    else startsNoOperator cs

def isInserted (fuel : Nat) (ending : Ending) : List Char → Bool
  | [] => true
  | c :: rest =>
    if c == '\x00' then true
    else if c == '}' then
      (rest.dropWhile isAsciiBlank).head? != some ':' || ending == .expression
    else if c == '\n' then
      match afterComments fuel rest with
      | none => false
      | some next => beforeLine ending next
    else if isAsciiBlank c then isInserted fuel ending rest
    else false

end Semicolon

end SubmissionGrader.Syntax
