import SubmissionGrader.Text.Alphanumeric

/-!
# Valid identifiers

An identifier is a sequence of units. A unit is a letter, a digit, one of `$`, `_` and `-`, one of
the two joiners, or a Unicode escape: `\u` with four hexadecimal digits, or with at least one in
braces. The check reads the word once and remembers how much of an escape it has seen.
-/

namespace SubmissionGrader.Syntax.Identifier

open SubmissionGrader.Text

/-- How much of an escape was read. -/
inductive Progress where
  /-- Between units. -/
  | between
  /-- Behind a backslash. -/
  | backslash
  /-- Behind `\u`. -/
  | mark
  /-- Within braces; the flag says whether a digit was read. -/
  | braces (nonempty : Bool)
  /-- Before the given number of digits. -/
  | digits (left : Nat)
  deriving DecidableEq, Repr

def isHexDigit (c : Char) : Bool :=
  c.isDigit || ('a' ≤ c && c ≤ 'f') || ('A' ≤ c && c ≤ 'F')

def isPlain (c : Char) : Bool :=
  isAlphanumeric c || c == '$' || c == '_' || c == '-' || c == '\u200c' || c == '\u200d'

/-- The progress behind one more character; `none` if it cannot stand there. -/
def next : Progress → Char → Option Progress
  | .between, c => if c == '\\' then some .backslash else if isPlain c then some .between else none
  | .backslash, c => if c == 'u' then some .mark else none
  | .mark, c =>
    if c == '{' then some (.braces false) else if isHexDigit c then some (.digits 3) else none
  | .braces nonempty, c =>
    if c == '}' && nonempty then some .between
    else if isHexDigit c then some (.braces true) else none
  | .digits left, c =>
    if isHexDigit c then some (if left ≤ 1 then .between else .digits (left - 1)) else none

/-- Whether a word can be read to its end from the given progress. -/
def accepts : Progress → List Char → Bool
  | progress, [] => progress == .between
  | progress, c :: rest =>
    match next progress c with
    | none => false
    | some progress => accepts progress rest

def isValid (word : String) : Bool := accepts .between word.toList

end SubmissionGrader.Syntax.Identifier
