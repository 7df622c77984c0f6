import SubmissionGrader.Text.Ranges

/-!
# Patterns as they are written

A pattern is a regular expression. `Term` is its structure before flags take effect. `Term.depth`
is how deep it is nested.
-/

namespace SubmissionGrader.Pattern

open Text

inductive Flag where
  | ignoreCase
  | multiLine
  | dotMatchesLineFeed
  | swapGreed
  | unicode
  | crlf
  | ignoreSpace
  deriving DecidableEq, Repr

/-- Flags with whether they are switched on. -/
abbrev FlagChanges := List (Flag × Bool)

inductive Assertion where
  | lineStart
  | lineEnd
  | textStart
  | textEnd
  | wordBoundary
  | noWordBoundary
  | wordStart
  | wordEnd
  | wordStartHalf
  | wordEndHalf
  deriving DecidableEq, Repr

inductive LetterClass where
  | digit
  | space
  | word
  deriving DecidableEq, Repr

/-- A property of characters: by its name, or by the name of a kind and a value of it. -/
inductive Property where
  | named (name : String)
  | valued (kind value : String)
  deriving DecidableEq, Repr

/-- A single character. If it is written as two hexadecimal digits, it can stand for a byte. -/
structure Literal where
  character : Char
  isByte : Bool
  deriving DecidableEq, Repr

inductive SetOperator where
  | intersection
  | difference
  | symmetricDifference
  deriving DecidableEq, Repr

mutual

inductive ClassItem where
  | literal (value : Literal)
  | range (low high : Literal)
  | ascii (negated : Bool) (members : Ranges)
  | letter (negated : Bool) (kind : LetterClass)
  | property (negated : Bool) (query : Property)
  | bracketed (negated : Bool) (set : ClassSet)

inductive ClassSet where
  | items (items : List ClassItem)
  | operation (operator : SetOperator) (left right : ClassSet)

end

inductive Term where
  | empty
  | flags (changes : FlagChanges)
  | literal (value : Literal)
  | dot
  | assertion (kind : Assertion)
  | letter (negated : Bool) (kind : LetterClass)
  | property (negated : Bool) (query : Property)
  | bracketed (negated : Bool) (set : ClassSet)
  | repetition (least : Nat) (most : Option Nat) (greedy : Bool) (body : Term)
  | capture (body : Term)
  | group (changes : FlagChanges) (body : Term)
  | alternation (branches : List Term)
  | sequence (parts : List Term)

mutual

def ClassItem.depth : ClassItem → Nat
  | .bracketed _ set => set.depth + 1
  | _ => 0

def ClassSet.depth : ClassSet → Nat
  | .items [] => 0
  | .items [item] => item.depth
  | .items items => itemsDepth items + 1
  | .operation _ left right => max left.depth right.depth + 1

def itemsDepth : List ClassItem → Nat
  | [] => 0
  | item :: rest => max item.depth (itemsDepth rest)

end

namespace Term

/-- The sequence of some terms; one term stands for itself. -/
def ofParts : List Term → Term
  | [] => empty
  | [part] => part
  | parts => sequence parts

mutual

def depth : Term → Nat
  | bracketed _ set => set.depth + 1
  | repetition _ _ _ body => body.depth + 1
  | capture body => body.depth + 1
  | group _ body => body.depth + 1
  | alternation branches => deepest branches + 1
  | sequence parts => deepest parts + 1
  | _ => 0

def deepest : List Term → Nat
  | [] => 0
  | term :: rest => max term.depth (deepest rest)

end

end Term

end SubmissionGrader.Pattern
