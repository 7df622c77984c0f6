import SubmissionGrader.Syntax.Concrete
import SubmissionGrader.Text.Width

/-!
# Reading a source from left to right

A `Reader` consumes a part of the text at a `Cursor` and gives a value, or it is stuck. Every
run, stuck or not, remembers the furthest place at which a token was refused; that place is where
an error in the source is reported. Alternatives are tried explicitly (`Reader.orElse`), and
loops are bounded by the size of the source.
-/

namespace SubmissionGrader.Syntax

/-- A place in the source: the text that follows, its byte offset, the number of bytes of the
whole source, and the furthest offset at which a token was refused so far. -/
structure Cursor where
  rest : List Char
  offset : Nat
  size : Nat
  reach : Nat

namespace Cursor

def start (source : List Char) : Cursor := ⟨source, 0, Text.byteCount source, 0⟩

def advance (c : Cursor) : Nat → Cursor
  | 0 => c
  | n + 1 =>
    match c.rest with
    | [] => c
    | x :: rest => advance { c with rest := rest, offset := c.offset + x.utf8Size } n

def withReach (c : Cursor) (reach : Nat) : Cursor := { c with reach := max c.reach reach }

end Cursor

/-- The result of a run: a value and the cursor behind it, or the furthest refusal. -/
inductive Outcome (α : Type) where
  | done (value : α) (rest : Cursor)
  | stuck (reach : Nat)

def Reader (α : Type) := Cursor → Outcome α

namespace Reader

variable {α β : Type}

instance : Monad Reader where
  pure a := fun c => .done a c
  bind p f := fun c =>
    match p c with
    | .done a rest => f a rest
    | .stuck reach => .stuck reach

def refuse : Reader α := fun c => .stuck (max c.reach c.offset)

def rest : Reader (List Char) := fun c => .done c.rest c

def offset : Reader Nat := fun c => .done c.offset c

def skip (n : Nat) : Reader Unit := fun c => .done () (c.advance n)

/-- Runs the second reader from the same cursor if the first is stuck; not if the first settled
that the source is unfinished. -/
def orElse (p q : Reader α) : Reader α := fun c =>
  match p c with
  | .done a rest => .done a rest
  | .stuck reach => if reach > c.size then .stuck reach else q (c.withReach reach)

/-- Runs the reader and forgets what it consumed; `none` if it is stuck. -/
def peek? (p : Reader α) : Reader (Option α) := fun c =>
  match p c with
  | .done a rest => .done (some a) (c.withReach rest.reach)
  | .stuck reach => if reach > c.size then .stuck reach else .done none (c.withReach reach)

/-- Runs the reader if it is not stuck, and otherwise consumes nothing. -/
def optional (p : Reader α) : Reader (Option α) :=
  orElse (do return some (← p)) (pure none)

/-- A construct in brackets that is stuck at the end of the source is unfinished, and no other
reading can finish it: its reach is set behind the end, which stops all alternatives. -/
def settled (p : Reader α) : Reader α := fun c =>
  match p { c with reach := 0 } with
  | .done a rest => .done a (rest.withReach c.reach)
  | .stuck reach => .stuck (if reach ≥ c.size then c.size + 1 else max c.reach reach)

/-- Repeats a reader as long as it gives `some`, at most `n` times. -/
def collect (p : Reader (Option α)) : Nat → List α → Reader (List α)
  | 0, acc => pure acc.reverse
  | n + 1, acc => do
    match ← p with
    | none => return acc.reverse
    | some a => collect p n (a :: acc)

def many (p : Reader (Option α)) : Reader (List α) := fun c => collect p (c.size + 1) [] c

/-- Extends a value step by step as long as the reader gives `some`, at most `n` times. -/
def extend (step : α → Reader (Option α)) : Nat → α → Reader α
  | 0, a => pure a
  | n + 1, a => do
    match ← step a with
    | none => return a
    | some b => extend step n b

def grow (step : α → Reader (Option α)) (a : α) : Reader α := fun c =>
  extend step (c.size + 1) a c

end Reader

end SubmissionGrader.Syntax
