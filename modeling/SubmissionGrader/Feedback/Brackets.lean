/-!
# Balance of brackets

`visible` keeps the brackets of a source that stand outside of strings, templates and comments.
`bracketFault?` says whether they are balanced, and what is wrong if they are not.
-/

namespace SubmissionGrader.Feedback

/-- Where a scan of a source stands. -/
inductive Span where
  | code
  | quoted (quote : Char)
  | template
  | line
  | block
  deriving DecidableEq, Repr

def isOpening (c : Char) : Bool := c == '\x7b' || c == '[' || c == '('

def openingOf? : Char → Option Char
  | '\x7d' => some '\x7b'
  | ']' => some '['
  | ')' => some '('
  | _ => none

def isBracket (c : Char) : Bool := isOpening c || (openingOf? c).isSome

/-- The brackets in code. A quoted span ends at its quote or at the end of its line, a template at
a backtick, and a backslash hides the character behind it from both. -/
def visible : Span → List Char → List Char
  | _, [] => []
  | .code, '/' :: '/' :: rest => visible .line rest
  | .code, '/' :: '*' :: rest => visible .block rest
  | .code, c :: rest =>
    if c == '\x22' || c == '\x27' then visible (.quoted c) rest
    else if c == '\x60' then visible .template rest
    else if isBracket c then c :: visible .code rest
    else visible .code rest
  | .quoted _, ['\\'] => []
  | .quoted quote, '\\' :: _ :: rest => visible (.quoted quote) rest
  | .quoted quote, c :: rest =>
    if c == '\n' || c == quote then visible .code rest else visible (.quoted quote) rest
  | .template, ['\\'] => []
  | .template, '\\' :: _ :: rest => visible .template rest
  | .template, c :: rest => if c == '\x60' then visible .code rest else visible .template rest
  | .line, c :: rest => if c == '\n' then visible .code rest else visible .line rest
  | .block, '*' :: '/' :: rest => visible .code rest
  | .block, _ :: rest => visible .block rest

inductive BracketFault where
  | mismatched (closing : Char)
  | unclosed (opening : Char)
  deriving DecidableEq, Repr

def BracketFault.message : BracketFault → String
  | mismatched c => "Mismatched brackets around \"" ++ c.toString ++ "\""
  | unclosed c => "Unclosed bracket: \"" ++ c.toString ++ "\""

/-- The first fault of brackets behind others that are still open, the innermost one first. -/
def balance (stack : List Char) : List Char → Option BracketFault
  | [] => stack.head?.map .unclosed
  | c :: rest =>
    match openingOf? c with
    | none => balance (c :: stack) rest
    | some opening =>
      match stack with
      | top :: below => if top == opening then balance below rest else some (.mismatched c)
      | [] => some (.mismatched c)

def bracketFault? (source : String) : Option BracketFault :=
  balance [] (visible .code source.toList)

end SubmissionGrader.Feedback
