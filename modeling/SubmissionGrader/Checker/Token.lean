import SubmissionGrader.Checker.Operator
import SubmissionGrader.Number.Decimal
import SubmissionGrader.Text.Blank
import SubmissionGrader.Text.Quoted
import SubmissionGrader.Text.Width

/-!
# Tokens of the checker language

`nextLexeme` reads one token behind white space. `Tokens.ofChars` is the sequence of all tokens with
their byte offsets; where the text stops being made of tokens, the sequence ends with the fault.
-/

namespace SubmissionGrader.Checker

inductive Token where
  | number (value : Binary64)
  | text (value : String)
  | name (value : String)
  | operator (value : Operator)
  deriving DecidableEq, Repr

def Token.shown : Token → String
  | number value => value.text
  | text value => Text.quoted value
  | name value => value
  | operator value => value.symbol

inductive Fault where
  | empty
  | unexpectedCharacter (c : Char)
  | invalidNumber (text : String)
  | unterminatedText
  | unexpectedToken (token : Token)
  | unexpectedEnd
  | expectedOperator (operator : Operator)
  | expectedProperty
  | unsupportedProperty (name : String)
  deriving DecidableEq, Repr

def Fault.message : Fault → String
  | empty => "empty expression"
  | unexpectedCharacter c => "unexpected character '" ++ c.toString ++ "'"
  | invalidNumber text => "invalid number '" ++ text ++ "'"
  | unterminatedText => "unterminated string"
  | unexpectedToken token => "unexpected token '" ++ token.shown ++ "'"
  | unexpectedEnd => "unexpected end of expression"
  | expectedOperator operator => "expected '" ++ operator.symbol ++ "'"
  | expectedProperty => "expected a property name"
  | unsupportedProperty name => "property '" ++ name ++ "' is not supported"

/-- What follows in a text behind white space. -/
inductive Lexeme where
  | finish (offset : Nat)
  | fault (offset : Nat) (cause : Fault)
  | token (token : Token) (start stop : Nat) (rest : List Char)
  deriving DecidableEq, Repr

def isNameStart (c : Char) : Bool := c == '_' || c == '$' || c.isAlpha

def isNamePart (c : Char) : Bool := c == '_' || c == '$' || c.isAlphanum

def isNumberPart (c : Char) : Bool := c.isDigit || c == '.'

/-- Whether a number begins here: a digit, or a point before a digit. -/
def isNumberStart : List Char → Bool
  | '.' :: d :: _ => d.isDigit
  | c :: _ => c.isDigit
  | [] => false

/-- The character that stands for itself or another one behind a backslash. -/
def unescaped : Char → Char
  | 'n' => '\n'
  | 't' => '\t'
  | 'r' => '\r'
  | '0' => '\x00'
  | c => c

/-- The content of a quoted text up to its end quote, and what stands behind it. A quoted text is
on one line, unless a line feed is escaped. -/
def quotedContent (quote : Char) : List Char → Option (List Char × List Char)
  | [] => none
  | '\\' :: [] => none
  | '\\' :: c :: rest =>
    (quotedContent quote rest).map fun (content, r) => (unescaped c :: content, r)
  | c :: rest =>
    if c == quote then some ([], rest)
    else if c == '\n' then none
    else (quotedContent quote rest).map fun (content, r) => (c :: content, r)

def lexemeAt (offset : Nat) (cs : List Char) : Lexeme :=
  match cs with
  | [] => .finish offset
  | c :: rest =>
    if isNumberStart cs then
      let text := cs.takeWhile isNumberPart
      match Binary64.ofText? text with
      | some value =>
        .token (.number value) offset (offset + text.length) (cs.dropWhile isNumberPart)
      | none => .fault offset (.invalidNumber (String.ofList text))
    else if isNameStart c then
      let text := cs.takeWhile isNamePart
      .token (.name (String.ofList text)) offset (offset + text.length) (cs.dropWhile isNamePart)
    else if c == '\x22' || c == '\x27' then
      match quotedContent c rest with
      | some (content, behind) =>
        .token (.text (String.ofList content)) offset
          (offset + (Text.byteCount cs - Text.byteCount behind)) behind
      | none => .fault offset .unterminatedText
    else
      match Operator.atFront? cs with
      | some operator =>
        let length := operator.symbol.length
        .token (.operator operator) offset (offset + length) (cs.drop length)
      | none => .fault offset (.unexpectedCharacter c)

def nextLexeme (offset : Nat) (cs : List Char) : Lexeme :=
  lexemeAt (offset + Text.byteCount (cs.takeWhile Text.isBlank)) (Text.dropBlanks cs)

/-- The tokens of a text with their offsets, up to its end or its first fault. -/
inductive Tokens where
  | finish (offset : Nat)
  | fault (offset : Nat) (cause : Fault)
  | cons (token : Token) (offset : Nat) (rest : Tokens)
  deriving DecidableEq, Repr

namespace Tokens

/-- At most `fuel` tokens of a text that begins at a byte offset. -/
def read : Nat → Nat → List Char → Tokens
  | 0, offset, _ => finish offset
  | fuel + 1, offset, cs =>
    match nextLexeme offset cs with
    | .finish offset => finish offset
    | .fault offset cause => .fault offset cause
    | .token token start stop rest => cons token start (read fuel stop rest)

/-- The tokens of a text. No token is empty, so there are no more of them than characters. -/
def ofChars (cs : List Char) : Tokens := read (cs.length + 1) 0 cs

end Tokens

end SubmissionGrader.Checker
