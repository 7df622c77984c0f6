import SubmissionGrader.Text.Alphanumeric
import SubmissionGrader.Unicode.Property

/-!
# Expressions

A pattern with its flags resolved: sets of characters, places, repetitions, sequences and choices.
The smart constructors keep expressions small.
-/

namespace SubmissionGrader.Pattern

open Text

/-- Places in a text, each of which looks at the characters before and behind it. -/
inductive Look where
  | start
  | finish
  | lineStart (crlf : Bool)
  | lineEnd (crlf : Bool)
  | boundary (unicode : Bool)
  | noBoundary (unicode : Bool)
  | wordStart (unicode : Bool)
  | wordEnd (unicode : Bool)
  | wordStartHalf (unicode : Bool)
  | wordEndHalf (unicode : Bool)
  deriving DecidableEq, Repr

def wordSet (unicode : Bool) : Ranges :=
  if unicode then Unicode.word else [(48, 57), (65, 90), (95, 95), (97, 122)]

def isWordAt (unicode : Bool) (c : Option Char) : Bool := c.any (wordSet unicode).has

namespace Look

/-- Whether a place is between two characters, where none is the end of the text. -/
def holds (before behind : Option Char) : Look → Bool
  | start => before.isNone
  | finish => behind.isNone
  | lineStart false => before.all (· == '\n')
  | lineEnd false => behind.all (· == '\n')
  | lineStart true => before.all (· == '\n') || before == some '\r' && behind != some '\n'
  | lineEnd true => behind.all (· == '\r') || behind == some '\n' && before != some '\r'
  | boundary u => isWordAt u before != isWordAt u behind
  | noBoundary u => isWordAt u before == isWordAt u behind
  | wordStart u => !isWordAt u before && isWordAt u behind
  | wordEnd u => isWordAt u before && !isWordAt u behind
  | wordStartHalf u => !isWordAt u before
  | wordEndHalf u => !isWordAt u behind

end Look

/-- A pattern that can be searched for. Of a choice the first branch that leads to a match counts,
and a greedy repetition goes on as long as it can. -/
inductive Expression where
  | empty
  | set (characters : Ranges)
  | look (place : Look)
  | repetition (least : Nat) (most : Option Nat) (greedy : Bool) (body : Expression)
  | capture (body : Expression)
  | sequence (parts : List Expression)
  | choice (branches : List Expression)

namespace Expression

mutual

def nullable : Expression → Bool
  | empty | look _ => true
  | set characters => characters.isEmpty
  | repetition least _ _ body => least == 0 || body.nullable
  | capture body => body.nullable
  | sequence parts => allNullable parts
  | choice branches => anyNullable branches

def allNullable : List Expression → Bool
  | [] => true
  | part :: rest => part.nullable && allNullable rest

def anyNullable : List Expression → Bool
  | [] => false
  | branch :: rest => branch.nullable || anyNullable rest

end

mutual

/-- Whether the expression matches nothing but the empty text. -/
def hasNoWidth : Expression → Bool
  | empty | look _ => true
  | set _ => false
  | repetition _ most _ body => most == some 0 || body.hasNoWidth
  | capture body => body.hasNoWidth
  | sequence parts => noneHasWidth parts
  | choice branches => noneHasWidth branches

def noneHasWidth : List Expression → Bool
  | [] => true
  | part :: rest => part.hasNoWidth && noneHasWidth rest

end

/-- A repetition. Something without width need not be repeated more than once. -/
def repeated (least : Nat) (most : Option Nat) (greedy : Bool) (body : Expression) : Expression :=
  let (least, most) :=
    if body.hasNoWidth then (min least 1, some ((most.map (min · 1)).getD 1)) else (least, most)
  if most = some 0 then empty
  else if least = 1 && most = some 1 then body
  else repetition least most greedy body

/-- The parts of a sequence, where nothing is left out and a sequence is taken apart. -/
def partsOf : Expression → List Expression
  | empty => []
  | sequence parts => parts
  | e => [e]

def sequenceOf (parts : List Expression) : Expression :=
  match parts.flatMap partsOf with
  | [] => empty
  | [part] => part
  | parts => sequence parts

def branchesOf : Expression → List Expression
  | choice branches => branches
  | e => [e]

def characters? : Expression → Option Ranges
  | set characters => some characters
  | _ => none

/-- A choice between expressions; a choice between sets is a set. -/
def choiceOf (branches : List Expression) : Expression :=
  let branches := branches.flatMap branchesOf
  match branches.mapM characters? with
  | some sets => set (Ranges.unions sets)
  | none => choice branches

end Expression

end SubmissionGrader.Pattern
