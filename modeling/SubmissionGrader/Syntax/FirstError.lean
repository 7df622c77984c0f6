import SubmissionGrader.Syntax.Error
import SubmissionGrader.Syntax.TreeCursor

/-!
# The first error of a concrete tree

A node is faulty if it is an error or stands for a missing token. A cursor searches for the first
faulty node and enters only nodes that hold one; the fault is then described by the token that was
not expected, or by the one that is missing.
-/

namespace SubmissionGrader.Syntax

namespace Concrete

/-- Whether the node itself is an error or stands for a missing token. -/
def isFaulty (t : Concrete) : Bool := t.symbol == .error || t.head.missing

mutual

def hasError : Concrete → Bool
  | node head children => (node head children).isFaulty || anyHasError children

def anyHasError : List Concrete → Bool
  | [] => false
  | t :: rest => hasError t || anyHasError rest

end

mutual

/-- The leaf that is reached by going to first children only. -/
def firstLeaf : Concrete → Concrete
  | node head children => firstLeafOr (node head children) children

/-- The first leaf of the first tree, or the given node if there is none. -/
def firstLeafOr (t : Concrete) : List Concrete → Concrete
  | [] => t
  | first :: _ => firstLeaf first

end

end Concrete

namespace TreeCursor

/-- The number of nodes of the siblings behind the nodes above. -/
def countAbove : List (Concrete × List Concrete) → Nat
  | [] => 0
  | (_, behind) :: above => Concrete.countList behind + countAbove above

def remaining (c : TreeCursor) : Nat :=
  c.node.count + Concrete.countList c.behind + countAbove c.above

/-- The next node in document order that is not below this one. -/
def skip? (c : TreeCursor) : Option TreeCursor :=
  match c.nextSibling? with
  | some sibling => some sibling
  | none =>
    match _ : c.parent? with
    | some parent => parent.skip?
    | none => none
termination_by c.above.length
decreasing_by exact length_above_of_parent? ‹_›

/-- Where the search goes on behind a node that is not faulty itself. -/
def advance? (c : TreeCursor) : Option TreeCursor :=
  (if c.node.hasError then c.firstChild? else none).or c.skip?

theorem remaining_of_firstChild? {c child : TreeCursor} (h : c.firstChild? = some child) :
    child.remaining < c.remaining := by
  obtain ⟨⟨head, children⟩, behind, above⟩ := c
  cases children with
  | nil => cases h
  | cons first rest =>
    cases h
    simp only [remaining, Concrete.count, Concrete.countList, countAbove]
    omega

theorem remaining_of_nextSibling? {c sibling : TreeCursor} (h : c.nextSibling? = some sibling) :
    c.node.count + sibling.remaining = c.remaining := by
  obtain ⟨node, behind, above⟩ := c
  cases behind with
  | nil => cases h
  | cons first rest =>
    cases h
    simp only [remaining, Concrete.countList]
    omega

theorem remaining_of_parent? {c parent : TreeCursor} (hlast : c.nextSibling? = none)
    (h : c.parent? = some parent) :
    c.node.count + parent.remaining = c.remaining + parent.node.count := by
  obtain ⟨node, behind, above⟩ := c
  cases behind with
  | cons => cases hlast
  | nil =>
    cases above with
    | nil => cases h
    | cons first rest =>
      cases h
      simp only [remaining, Concrete.countList, countAbove]
      omega

theorem remaining_of_skip? {c d : TreeCursor} (h : c.skip? = some d) :
    c.node.count + d.remaining ≤ c.remaining := by
  fun_induction skip? c with
  | case1 c sibling hsibling =>
    cases h
    exact Nat.le_of_eq (remaining_of_nextSibling? hsibling)
  | case2 c hlast parent hparent ih =>
    have hup := remaining_of_parent? hlast hparent
    have habove := ih h
    omega
  | case3 => cases h

/-- The search never comes back to a node, so it ends. -/
theorem remaining_of_advance? {c d : TreeCursor} (h : c.advance? = some d) :
    d.remaining < c.remaining := by
  rw [advance?, Option.or_eq_some_iff] at h
  rcases h with hchild | ⟨-, hskip⟩
  · split at hchild
    next => exact remaining_of_firstChild? hchild
    next => cases hchild
  · have hpos := c.node.count_pos
    have hle := remaining_of_skip? hskip
    omega

def findFault? (c : TreeCursor) : Option TreeCursor :=
  if c.node.isFaulty then some c
  else
    match _ : c.advance? with
    | some next => next.findFault?
    | none => none
termination_by c.remaining
decreasing_by exact remaining_of_advance? ‹_›

end TreeCursor

def Concrete.firstError? (root : Concrete) : Option Concrete :=
  (TreeCursor.start root).findFault?.map TreeCursor.node

def describeError (source : List Char) (t : Concrete) : SyntaxError :=
  if t.head.missing then .atNode source t (.expected t.symbol.name)
  else
    let leaf := t.firstLeaf
    let text := leaf.text source
    if text.isEmpty then .atNode source t .unexpectedEnd
    else .atNode source leaf (.unexpectedToken text)

end SubmissionGrader.Syntax
