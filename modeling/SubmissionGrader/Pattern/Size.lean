import SubmissionGrader.Pattern.Expression

/-!
# Size of compiled expressions

An expression is refused if its compiled form is too large. The form works on bytes: a state takes
32 bytes, a transition among several of a state 8, and an alternative 4. Sets of characters are
compiled by the byte sequences of their characters, sharing what ends alike when read forwards and
what begins alike when read backwards. Both directions count for themselves.
-/

namespace SubmissionGrader.Pattern

open Text

abbrev ByteRange := Nat × Nat

/-! ### Byte sequences of character ranges -/

def utf8 (code : Nat) : List Nat :=
  if code < 0x80 then [code]
  else if code < 0x800 then [0xC0 + code / 64, 0x80 + code % 64]
  else if code < 0x10000 then [0xE0 + code / 4096, 0x80 + code / 64 % 64, 0x80 + code % 64]
  else [0xF0 + code / 262144, 0x80 + code / 4096 % 64, 0x80 + code / 64 % 64, 0x80 + code % 64]

/-- A range cut at the given boundaries: the second part starts at one. -/
def cutAt (low high : Nat) : List Nat → Option Nat
  | [] => none
  | boundary :: rest =>
    if low < boundary && boundary ≤ high then some boundary else cutAt low high rest

/-- A range cut where trailing bytes of one end are not all possible ones. -/
def cutUneven (low high : Nat) : List Nat → Option Nat
  | [] => none
  | block :: rest =>
    if low / block == high / block then cutUneven low high rest
    else if low % block != 0 then some ((low / block + 1) * block)
    else if high % block != block - 1 then some (high / block * block)
    else cutUneven low high rest

def byteSequences : Nat → Nat → Nat → List (List ByteRange)
  | 0, _, _ => []
  | fuel + 1, low, high =>
    if high < low then []
    else
      let cut := (cutAt low high [0xD800, 0xE000, 0x80, 0x800, 0x10000]).or <|
        if high < 0x80 then none else cutUneven low high [64, 4096, 262144]
      match cut with
      | some middle => byteSequences fuel low (middle - 1) ++ byteSequences fuel middle high
      | none => if 0xD800 ≤ low && high < 0xE000 then [] else [(utf8 low).zip (utf8 high)]

def sequencesOf (set : Ranges) : List (List ByteRange) :=
  set.flatMap fun (low, high) => byteSequences 64 low high

/-! ### Sets of characters -/

/-- Sequences with their first ranges apart; neighbours with one first range belong together. -/
def byFirst (sequences : List (List ByteRange)) : List (ByteRange × List (List ByteRange)) :=
  sequences.foldr (fun bytes groups =>
    match bytes with
    | [] => groups
    | first :: rest =>
      match groups with
      | (other, tails) :: more =>
        if other == first then (other, rest :: tails) :: more
        else (first, [rest]) :: groups
      | [] => [(first, [rest])]) []

/-- States by their transitions. Each state is numbered by its place in the list. -/
abbrev States := List (List (ByteRange × Nat))

mutual

/-- Adds the state that reads some sequences, for at most `levels` bytes; the number of the state
is given, where zero is the final one. -/
def addState : Nat → States → List (List ByteRange) → Nat × States
  | 0, states, _ => (0, states)
  | levels + 1, states, sequences =>
    if sequences.all List.isEmpty then (0, states)
    else
      let (transitions, states) := addTransitions levels states (byFirst sequences)
      match states.idxOf? transitions with
      | some i => (states.length - i, states)
      | none => (states.length + 1, transitions :: states)

/-- Adds the states behind each first range. -/
def addTransitions (levels : Nat) (states : States) :
    List (ByteRange × List (List ByteRange)) → List (ByteRange × Nat) × States
  | [] => ([], states)
  | (first, tails) :: rest =>
    let (target, states) := addState levels states tails
    let (transitions, states) := addTransitions levels states rest
    ((first, target) :: transitions, states)

end

def stateSize (transitions : Nat) : Nat := if transitions ≤ 1 then 32 else 32 + 8 * transitions

def forwardSetSize (sequences : List (List ByteRange)) : Nat :=
  let (_, states) := addState 5 [] sequences
  states.foldl (fun size transitions => size + stateSize transitions.length) 32

/-- All beginnings of a sequence that are not empty. -/
def beginnings (bytes : List ByteRange) : List (List ByteRange) :=
  (List.range bytes.length).map fun n => bytes.take (n + 1)

/-- The number of different beginnings, where sequences with one beginning are neighbours. -/
def countBeginnings (before : List ByteRange) : List (List ByteRange) → Nat
  | [] => 0
  | bytes :: rest =>
    (bytes.length - ((bytes.zip before).takeWhile fun (a, b) => a == b).length) +
      countBeginnings bytes rest

def backwardSetSize (sequences : List (List ByteRange)) : Nat :=
  64 + 32 * countBeginnings [] sequences + 4 * sequences.length

def setSize (forwards : Bool) (set : Ranges) : Nat :=
  match set with
  | [] => 64
  | [(low, high)] =>
    if low == high then 32 * (utf8 low).length
    else if high < 0x80 then 64
    else if forwards then forwardSetSize (sequencesOf set) else backwardSetSize (sequencesOf set)
  | _ =>
    if set.all (·.2 < 0x80) then 32 + stateSize set.length
    else if forwards then forwardSetSize (sequencesOf set) else backwardSetSize (sequencesOf set)

namespace Expression

mutual

def size (forwards : Bool) : Expression → Nat
  | empty | look _ => 32
  | set characters => setSize forwards characters
  | capture body => size forwards body + if forwards then 64 else 0
  | sequence parts => totalSize forwards parts
  | choice branches => 64 + 4 * branches.length + totalSize forwards branches
  | repetition least most _ body =>
    let each := size forwards body
    match most with
    | some most =>
      if least = 0 && most = 1 then 72 + each
      else if least = most then (if least = 0 then 32 else least * each)
      else (if least = 0 then 32 else least * each) + 32 + (most - least) * (40 + each)
    | none =>
      if least = 0 then (if body.nullable then 112 else 40) + each else least * each + 40

def totalSize (forwards : Bool) : List Expression → Nat
  | [] => 0
  | part :: rest => size forwards part + totalSize forwards rest

end

/-- Bytes that a compiled pattern may take in each direction. -/
def sizeLimit : Nat := 10 * 1024 * 1024

/-- Bytes that every compiled pattern takes for its start and its end. -/
def frameSize : Nat := 200

def fits (e : Expression) : Bool :=
  frameSize + e.size true ≤ sizeLimit && frameSize + e.size false ≤ sizeLimit

end Expression

end SubmissionGrader.Pattern
