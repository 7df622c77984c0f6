import SubmissionGrader.Pattern.Program

/-!
# Searching for patterns

All ways through a program are followed together, character by character, the preferred ones first.
The match that begins first counts, and among those that begin there the preferred one.
-/

namespace SubmissionGrader.Pattern

/-- A way through a program: the step it is at, and where it began. -/
structure Thread where
  step : Nat
  start : Nat

/-- The ways in order of preference. A step that was reached before is not entered again; the
marks hold the number of the round in which a step was last reached. -/
structure Frontier where
  marks : Array Nat
  threads : Array Thread

namespace Frontier

/-- Follows steps that read nothing, from a stack of steps, at a place between two characters. -/
def enter (steps : Steps) (before behind : Option Char) (round start : Nat) :
    Nat → List Nat → Frontier → Frontier
  | 0, _, frontier => frontier
  | _, [], frontier => frontier
  | fuel + 1, step :: stack, ⟨marks, threads⟩ =>
    if marks[step]! == round then enter steps before behind round start fuel stack ⟨marks, threads⟩
    else
      let marks := marks.set! step round
      match steps[step]! with
      | .branch first second =>
        enter steps before behind round start fuel (first :: second :: stack) ⟨marks, threads⟩
      | .look place next =>
        if place.holds before behind then
          enter steps before behind round start fuel (next :: stack) ⟨marks, threads⟩
        else enter steps before behind round start fuel stack ⟨marks, threads⟩
      | _ => enter steps before behind round start fuel stack ⟨marks, threads.push ⟨step, start⟩⟩

end Frontier

/-- A match: the places of its ends, counted in characters. -/
structure Match where
  start : Nat
  stop : Nat
  deriving DecidableEq, Repr

namespace Program

/-- A bound for the number of steps entered in one round. -/
def bound (p : Program) : Nat := 2 * p.steps.size + 2

/-- Moves the ways over a character, up to the first one that accepts. -/
def advance (p : Program) (position : Nat) (c : Option Char) (behind : Option Char)
    (threads : List Thread) (best : Option Match) (next : Frontier) : Option Match × Frontier :=
  match threads with
  | [] => (best, next)
  | thread :: rest =>
    match p.steps[thread.step]! with
    | .read set step =>
      if c.any set.has then
        advance p position c behind rest best <|
          next.enter p.steps c behind (position + 2) thread.start p.bound [step]
      else advance p position c behind rest best next
    | _ => (some ⟨thread.start, position⟩, next)

/-- Searches from a place on, where the ways that are open there are given. -/
def searchFrom (p : Program) (position : Nat) (before : Option Char) (text : List Char)
    (best : Option Match) (frontier : Frontier) : Option Match :=
  let frontier := if best.isNone then
      frontier.enter p.steps before text.head? (position + 1) position p.bound [p.entry]
    else frontier
  match text with
  | [] => (p.advance position none none frontier.threads.toList best ⟨frontier.marks, #[]⟩).1
  | c :: rest =>
    let (best, next) := p.advance position (some c) rest.head? frontier.threads.toList best
      ⟨frontier.marks, #[]⟩
    if best.isSome && next.threads.isEmpty then best
    else searchFrom p (position + 1) (some c) rest best next

def find? (p : Program) (position : Nat) (before : Option Char) (text : List Char) :
    Option Match :=
  p.searchFrom position before text none ⟨Array.replicate p.steps.size 0, #[]⟩

/-- Goes on by a number of characters: the character before the place reached, and the text
behind it. -/
def forward : Nat → Option Char → List Char → Option Char × List Char
  | 0, before, text => (before, text)
  | _, before, [] => (before, [])
  | n + 1, _, c :: rest => forward n (some c) rest

/-- Matches that do not overlap, from a place on. A match of nothing does not count right behind
the match before it; the search goes on one character later. -/
def matchesFrom (p : Program) : Nat → Nat → Option Char → List Char → Option Nat → List Match
  | 0, _, _, _, _ => []
  | fuel + 1, position, before, text, last =>
    match p.find? position before text with
    | none => []
    | some m =>
      if m.start = m.stop ∧ last = some m.stop then
        match text with
        | [] => []
        | c :: rest =>
          match p.find? (position + 1) (some c) rest with
          | none => []
          | some m =>
            let (before, text) := forward (m.stop - (position + 1)) (some c) rest
            m :: matchesFrom p fuel m.stop before text (some m.stop)
      else
        let (before, text) := forward (m.stop - position) before text
        m :: matchesFrom p fuel m.stop before text (some m.stop)

/-- The matches in a text that do not overlap, from left to right. -/
def allMatches (p : Program) (text : List Char) : List Match :=
  p.matchesFrom (text.length + 2) 0 none text none

end Program

end SubmissionGrader.Pattern
