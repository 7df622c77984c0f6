/-!
# Sets of characters as code point ranges

A character class of Unicode is a sorted list of closed ranges of code points. Sets are built from
any ranges (`ofList`) and from other sets (`union`, `complement`, `intersection`, `difference`).
-/

namespace SubmissionGrader.Text

/-- A set of code points, as closed ranges in increasing order. -/
abbrev Ranges := List (Nat × Nat)

def maxCodePoint : Nat := 0x10FFFF

namespace Ranges

/-- Whether a code point lies in one of the ranges; the search stops at the first range above it. -/
def contains : Ranges → Nat → Bool
  | [], _ => false
  | (low, high) :: rest, code => if code < low then false else code ≤ high || contains rest code

def has (ranges : Ranges) (c : Char) : Bool := contains ranges c.toNat

@[simp] theorem contains_nil (code : Nat) : contains [] code = false := rfl

/-- A range and those behind it, joined where they touch. -/
def joined (low high : Nat) : Ranges → Ranges
  | [] => [(low, high)]
  | (l, h) :: rest =>
    if l ≤ high + 1 then joined low (max high h) rest else (low, high) :: joined l h rest

def ofList (ranges : List (Nat × Nat)) : Ranges :=
  match ranges.mergeSort fun a b => a.1 ≤ b.1 with
  | [] => []
  | (low, high) :: rest => joined low high rest

def union (a b : Ranges) : Ranges := ofList (a ++ b)

def unions (sets : List Ranges) : Ranges := ofList sets.flatten

/-- The code points from `next` on that are in none of the ranges. -/
def gaps (next : Nat) : Ranges → Ranges
  | [] => if next ≤ maxCodePoint then [(next, maxCodePoint)] else []
  | (low, high) :: rest =>
    if next < low then (next, low - 1) :: gaps (high + 1) rest else gaps (high + 1) rest

def complement (a : Ranges) : Ranges := gaps 0 a

def intersection (a b : Ranges) : Ranges := (a.complement.union b.complement).complement

def difference (a b : Ranges) : Ranges := (a.complement.union b).complement

def symmetricDifference (a b : Ranges) : Ranges := (a.difference b).union (b.difference a)

end Ranges

end SubmissionGrader.Text
