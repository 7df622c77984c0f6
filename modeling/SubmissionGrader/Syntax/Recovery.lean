import SubmissionGrader.Syntax.Grammar
import SubmissionGrader.Syntax.Position

/-!
# Concrete trees of refused sources

A source that the grammar refuses still has a concrete tree, in which one node says what is wrong.
If only closing braces are missing at the end, the node stands for the first of them. If the source
ends too early otherwise, the node covers its last statement. Else it covers the fewest tokens,
around the one that was refused, without which the grammar accepts the source.
-/

namespace SubmissionGrader.Syntax

namespace Recovery

open Grammar

def isAccepted (source : List Char) : Bool :=
  match read source with
  | .done _ _ => true
  | .stuck _ => false

/-- The length of the token at the front of a text; a quote that is not closed on its line is a
token of its own. -/
def tokenLength (cs : List Char) : Nat :=
  match Lexeme.word cs, Lexeme.number cs with
  | n + 1, _ => n + 1
  | 0, n + 1 => n + 1
  | 0, 0 =>
    match cs with
    | [] => 0
    | c :: rest =>
      if c == '\x22' || c == '\x27' then
        let n := Lexeme.run (fun d => d != c && d != '\n' && d != '\\') rest
        if (rest.drop n).head? == some c then n + 2 else 1
      else max 1 (Lexeme.operator cs).length

/-- The tokens of a text with their byte ranges, at most `n` of them. -/
def tokens : Nat → Cursor → List Span
  | 0, _ => []
  | n + 1, c =>
    let start := c.advance (Lexeme.trivia c.size c.rest)
    match tokenLength start.rest with
    | 0 => []
    | k + 1 =>
      let after := start.advance (k + 1)
      ⟨start.offset, after.offset⟩ :: tokens n after

/-- The text without a range of bytes, in whose place a blank stands. -/
def without (source : List Char) (span : Span) : List Char :=
  (prefixOf source span.start).getD [] ++ ' ' :: (suffixFrom source span.stop).getD []

/-- How many tokens before and from the refused one to leave out, cheapest first. -/
def attempts : List (Nat × Nat) := [(0, 1), (1, 0), (1, 1), (0, 2), (2, 0), (2, 1)]

def tokensAround (source : List Char) (offset : Nat) : List Span × List Span :=
  let start := Cursor.start source
  let here : Cursor := { start with
    rest := (suffixFrom source offset).getD []
    offset := offset }
  ((tokens start.size start).filter (·.stop ≤ offset), tokens start.size here)

/-- The range of the last and the first tokens of two lists, as many as an attempt says. -/
def around (before after : List Span) (attempt : Nat × Nat) : Option Span :=
  let chosen := before.drop (before.length - attempt.1) ++ after.take attempt.2
  if attempt.1 ≤ before.length && attempt.2 ≤ after.length then
    match chosen.head?, chosen.getLast? with
    | some first, some last => some ⟨first.start, last.stop⟩
    | _, _ => none
  else none

/-- The byte offset of the first statement from the cursor on that cannot be read. -/
def unreadFrom (self : Rules) : Nat → Cursor → Nat
  | 0, c => c.offset
  | n + 1, c =>
    let start := c.advance (Lexeme.trivia c.size c.rest)
    if start.rest.isEmpty then start.offset
    else
      match self .statement start with
      | .done _ rest => unreadFrom self n rest
      | .stuck _ => start.offset

def unreadStatement (source : List Char) : Nat :=
  let start := Cursor.start source
  unreadFrom (rule (layers * (start.size + 2))) (start.size + 1) start

def faultyTree (size : Nat) (fault : Concrete) : Concrete :=
  .named (.other "program") ⟨0, size⟩ [fault]

/-- An error over a range, whose first token has the given range. -/
def errorNode (span first : Span) (source : List Char) : Concrete :=
  .node ⟨.error, false, none, span⟩ [.token (first.text source) first]

def missingBrace (offset : Nat) : Concrete :=
  .node ⟨.token "\x7d", true, none, ⟨offset, offset⟩⟩ []

/-- The concrete tree of a source that ends too early. -/
def unfinishedTree (source : List Char) : Concrete :=
  let start := Cursor.start source
  let closed (n : Nat) := source ++ '\n' :: List.replicate n '}' ++ " x".toList
  if [1, 2, 3].any fun n => isAccepted (closed n) then
    faultyTree start.size
      (missingBrace (Text.byteCount (source.reverse.dropWhile Lexeme.isSpace)))
  else
    let (_, after) := tokensAround source (unreadStatement source)
    let first := after.head?.getD ⟨0, start.size⟩
    faultyTree start.size (errorNode ⟨first.start, start.size⟩ first source)

/-- The concrete tree of a source that was refused at a byte offset. -/
def tree (source : List Char) (reach : Nat) : Concrete :=
  let size := Text.byteCount source
  let (before, after) := tokensAround source reach
  match after with
  | [] => unfinishedTree source
  | refused :: _ =>
    let found := attempts.findSome? fun attempt =>
      (around before after attempt).filter fun span => isAccepted (without source span)
    let span := found.getD refused
    let first := ((before ++ after).find? (span.start ≤ ·.start)).getD refused
    faultyTree size (errorNode span first source)

end Recovery

def Concrete.ofSource (source : List Char) : Concrete :=
  match Grammar.read source with
  | .done tree _ => tree
  | .stuck reach => Recovery.tree source reach

end SubmissionGrader.Syntax
