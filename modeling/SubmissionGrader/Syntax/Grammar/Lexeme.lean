import SubmissionGrader.Syntax.Grammar.Cursor
import SubmissionGrader.Text.Blank

/-!
# Lexemes

How far a word, a number, a comment or an escape at the front of a text extends. Every function
here gives the number of characters of the longest lexeme of its class, `0` if there is none.
-/

namespace SubmissionGrader.Syntax.Lexeme

open SubmissionGrader.Text

/-- The characters of the longest prefix that satisfies `p`. -/
def run (p : Char → Bool) (cs : List Char) : Nat := (cs.takeWhile p).length

/-- White space between tokens: blank characters and the zero-width space, joiner and mark. -/
def isSpace (c : Char) : Bool :=
  isBlank c || c == '\ufeff' || c == '\u2060' || c == '\u200b'

def isLineEnd (c : Char) : Bool := c == '\n' || c == '\r' || c == '\u2028' || c == '\u2029'

def isHexDigit (c : Char) : Bool :=
  c.isDigit || ('a' ≤ c && c ≤ 'f') || ('A' ≤ c && c ≤ 'F')

def isOctalDigit (c : Char) : Bool := '0' ≤ c && c ≤ '7'

def isBinaryDigit (c : Char) : Bool := c == '0' || c == '1'

/-! ### Words -/

/-- The punctuation and controls that cannot be part of a word. -/
def isWordBreak (c : Char) : Bool :=
  c.toNat < 32 || isSpace c ||
    ":;`\"'@#.,|^&<=>+-*/\\%?!~()[]\x7b\x7d".toList.contains c

/-- A Unicode escape in a word: `\u` with four hexadecimal digits, or with some in braces. -/
def wordEscape : List Char → Nat
  | '\\' :: 'u' :: '{' :: rest =>
    let n := run isHexDigit rest
    if n > 0 && (rest.drop n).head? == some '}' then n + 4 else 0
  | '\\' :: 'u' :: a :: b :: c :: d :: _ => if [a, b, c, d].all isHexDigit then 6 else 0
  | _ => 0

/-- The characters that continue a word, when `pending` characters of an escape are still open. -/
def wordTail : Nat → List Char → Nat
  | _, [] => 0
  | pending + 1, _ :: rest => 1 + wordTail pending rest
  | 0, c :: rest =>
    if isWordBreak c then
      match wordEscape (c :: rest) with
      | 0 => 0
      | n + 1 => 1 + wordTail n rest
    else 1 + wordTail 0 rest

/-- A word: it does not start with a digit. -/
def word (cs : List Char) : Nat :=
  match cs with
  | [] => 0
  | c :: _ => if c.isDigit then 0 else wordTail 0 cs

/-- A name with hyphens, as tags and attributes of markup have them. -/
def hyphenated (cs : List Char) : Nat :=
  let isStart (c : Char) := c.isAlpha || c == '_' || c == '$'
  let isPart (c : Char) := c.isAlphanum || c == '_' || c == '$'
  match cs with
  | [] => 0
  | c :: _ =>
    let n := run isPart cs
    if isStart c && (cs.drop n).head? == some '-' then
      n + run (fun c => isPart c || c == '-') (cs.drop n)
    else 0

/-! ### Numbers -/

/-- Digits of a class with single underscores between them. -/
def digits (isDigit : Char → Bool) : List Char → Nat
  | [] => 0
  | [c] => if isDigit c then 1 else 0
  | c :: d :: rest =>
    if !isDigit c then 0
    else if d == '_' then
      match digits isDigit rest with
      | 0 => 1
      | n + 1 => n + 3
    else 1 + digits isDigit (d :: rest)

def exponent : List Char → Nat
  | e :: rest =>
    if e == 'e' || e == 'E' then
      let sign := match rest with
        | '+' :: _ | '-' :: _ => 1
        | _ => 0
      match digits Char.isDigit (rest.drop sign) with
      | 0 => 0
      | n + 1 => n + 2 + sign
    else 0
  | [] => 0

/-- Whether the digits may be followed by a fraction or an exponent: they have at most one leading
zero, and no underscore behind it. -/
def takesFraction : List Char → Bool
  | ['0'] => true
  | '0' :: d :: _ => d.isDigit && d != '0'
  | _ => true

/-- A decimal number, with fraction and exponent, or the suffix `n` of an unbounded integer. -/
def decimal (cs : List Char) : Nat :=
  match digits Char.isDigit cs with
  | 0 =>
    match cs with
    | '.' :: rest =>
      match digits Char.isDigit rest with
      | 0 => 0
      | n + 1 => n + 2 + exponent (rest.drop (n + 1))
    | _ => 0
  | n + 1 =>
    let after := cs.drop (n + 1)
    let plain := match after with
      | 'n' :: _ => n + 2
      | _ => n + 1
    if takesFraction (cs.take (n + 1)) then
      match after with
      | '.' :: rest =>
        let k := digits Char.isDigit rest
        n + 2 + k + exponent (rest.drop k)
      | _ => max plain (n + 1 + exponent after)
    else plain

/-- Digits of another radix behind their two-character mark, with an optional suffix `n`. -/
def radixDigits (isDigit : Char → Bool) (cs : List Char) : Nat :=
  match digits isDigit cs with
  | 0 => 0
  | n + 1 => if (cs.drop (n + 1)).head? == some 'n' then n + 4 else n + 3

def number (cs : List Char) : Nat :=
  let radix := match cs with
    | '0' :: 'x' :: rest | '0' :: 'X' :: rest => radixDigits isHexDigit rest
    | '0' :: 'b' :: rest | '0' :: 'B' :: rest => radixDigits isBinaryDigit rest
    | '0' :: 'o' :: rest | '0' :: 'O' :: rest => radixDigits isOctalDigit rest
    | _ => 0
  if radix > 0 then radix else decimal cs

/-! ### Comments -/

/-- The characters up to and including the first `*/`; `0` if there is none. -/
def blockEnd : List Char → Nat
  | '*' :: '/' :: _ => 2
  | _ :: rest =>
    match blockEnd rest with
    | 0 => 0
    | n + 1 => n + 2
  | [] => 0

def comment : List Char → Nat
  | '/' :: '/' :: rest => 2 + run (!isLineEnd ·) rest
  | '/' :: '*' :: rest =>
    match blockEnd rest with
    | 0 => 0
    | n + 1 => n + 3
  | _ => 0

/-- White space and comments in front of a token. -/
def trivia : Nat → List Char → Nat
  | 0, _ => 0
  | fuel + 1, cs =>
    match run isSpace cs with
    | 0 =>
      match comment cs with
      | 0 => 0
      | n + 1 => n + 1 + trivia fuel (cs.drop (n + 1))
    | n + 1 => n + 1 + trivia fuel (cs.drop (n + 1))

/-- A comment in the style of HTML, which hides the rest of its line. -/
def htmlComment : List Char → Nat
  | '<' :: '!' :: '-' :: '-' :: rest =>
    4 + run (fun c => c != '\n' && c != '\u2028' && c != '\u2029') rest
  | '-' :: '-' :: '>' :: rest =>
    3 + run (fun c => c != '\n' && c != '\u2028' && c != '\u2029') rest
  | _ => 0

/-! ### Escapes, entities and patterns -/

def escape : List Char → Nat
  | '\\' :: c :: rest =>
    if c == 'x' then if 2 ≤ run isHexDigit (rest.take 2) then 4 else 0
    else if c == 'u' then
      match rest with
      | '{' :: more =>
        let n := run isHexDigit more
        if n > 0 && (more.drop n).head? == some '}' then n + 4 else 0
      | _ => if 4 ≤ run isHexDigit (rest.take 4) then 6 else 0
    else if isOctalDigit c then 1 + run isOctalDigit ((c :: rest).take 3)
    else if c == '\r' || c == '?' then
      match rest with
      | d :: _ => if d == '\n' || d == '\u2028' || d == '\u2029' then 3 else 2
      | [] => 2
    else 2
  | _ => 0

def entity : List Char → Nat
  | '&' :: '#' :: x :: rest =>
    if x == 'x' || x == 'X' then
      let n := run isHexDigit (rest.take 6)
      if n > 0 && (rest.drop n).head? == some ';' then n + 4 else 0
    else
      let n := run Char.isDigit ((x :: rest).take 5)
      if n > 0 && ((x :: rest).drop n).head? == some ';' then n + 3 else 0
  | '&' :: rest =>
    let n := run Char.isAlpha (rest.take 30)
    if n > 0 && (rest.drop n).head? == some ';' then n + 2 else 0
  | _ => 0

def patternClass : List Char → Nat
  | ']' :: _ => 1
  | '\\' :: c :: rest =>
    if c == '\n' then 0
    else match patternClass rest with
      | 0 => 0
      | n + 1 => n + 3
  | c :: rest =>
    if c == '\n' || c == '\\' then 0
    else match patternClass rest with
      | 0 => 0
      | n + 1 => n + 2
  | [] => 0

/-- The body of a regular expression behind its opening slash, when `pending` characters of a
class or an escape are still open. -/
def pattern : Nat → List Char → Nat
  | _, [] => 0
  | pending + 1, _ :: rest => 1 + pattern pending rest
  | 0, '\\' :: rest =>
    match rest with
    | [] => 0
    | c :: _ => if c == '\n' then 0 else 1 + pattern 1 rest
  | 0, '[' :: rest =>
    match patternClass rest with
    | 0 => 0
    | n + 1 => 1 + pattern (n + 1) rest
  | 0, c :: rest => if c == '/' || c == '\n' then 0 else 1 + pattern 0 rest

/-! ### Operators -/

/-- The operators and separators of the language, longer ones first. -/
def operators : List String :=
  [">>>=", "...", "===", "!==", ">>>", "<<=", ">>=", "**=", "&&=", "||=", "??=",
   "=>", "==", "!=", "<=", ">=", "&&", "||", "??", "?.", "++", "--", "+=", "-=", "*=", "/=",
   "%=", "&=", "|=", "^=", "<<", ">>", "**",
   "<", ">", "=", "+", "-", "*", "/", "%", "&", "|", "^", "!", "~", "?", ":", ",", ";", ".",
   "(", ")", "[", "]", "\x7b", "\x7d", "@", "#"]

def operatorChars : List (List Char) := operators.map String.toList

/-- The longest operator at the front of the text, empty if there is none. -/
def operator (cs : List Char) : List Char :=
  (operatorChars.find? fun op => op.isPrefixOf cs).getD []

end SubmissionGrader.Syntax.Lexeme
