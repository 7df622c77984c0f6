import SubmissionGrader.Syntax.Concrete
import SubmissionGrader.Text.Width

/-!
# Text and positions of a source

The text that a range of bytes covers, and the line and column of a byte offset. Offsets and
columns are found by walking over the characters of the source, whose widths are those of UTF-8.
-/

namespace SubmissionGrader.Syntax

/-- The characters from the byte offset `n` on, if a character starts there. -/
def suffixFrom : List Char → Nat → Option (List Char)
  | cs, 0 => some cs
  | [], _ + 1 => none
  | c :: rest, n + 1 =>
    if c.utf8Size ≤ n + 1 then suffixFrom rest (n + 1 - c.utf8Size) else none

/-- The first characters that take `n` bytes, if a character ends there. -/
def prefixOf : List Char → Nat → Option (List Char)
  | _, 0 => some []
  | [], _ + 1 => none
  | c :: rest, n + 1 =>
    if c.utf8Size ≤ n + 1 then (prefixOf rest (n + 1 - c.utf8Size)).map (c :: ·) else none

/-- The text that a span covers; empty if its ends are not between characters. -/
def Span.text (source : List Char) (span : Span) : String :=
  match suffixFrom source span.start with
  | none => ""
  | some rest => String.ofList ((prefixOf rest (span.stop - span.start)).getD [])

def Concrete.text (source : List Char) (t : Concrete) : String := t.span.text source

def lastLine (cs : List Char) : List Char := (cs.reverse.takeWhile (· != '\n')).reverse

/-- A place in a source, counted from zero: the line, and the byte offset within the line. -/
structure Position where
  row : Nat
  column : Nat
  deriving DecidableEq, Repr

def Position.ofOffset (source : List Char) (offset : Nat) : Position :=
  let before := (prefixOf source offset).getD source
  ⟨before.count '\n', Text.byteCount (lastLine before)⟩

/-- The characters between two byte offsets, if both are between characters. -/
def charactersBetween? (source : List Char) (start stop : Nat) : Option (List Char) :=
  if start ≤ stop then (suffixFrom source start).bind (prefixOf · (stop - start)) else none

/-- The number of characters between the start of the line and a byte offset. The line starts as
many bytes in front of the offset as its place says. If these are no characters of the source, the
bytes are counted. -/
def characterColumn (source : List Char) (offset : Nat) : Nat :=
  let bytes := (Position.ofOffset source offset).column
  let inLine := if bytes ≤ offset then charactersBetween? source (offset - bytes) offset else none
  inLine.elim bytes List.length

end SubmissionGrader.Syntax
