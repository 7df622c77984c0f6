import SubmissionGrader.Syntax.Concrete

/-!
# Cursors in concrete trees

A cursor is a place in a concrete tree. It moves to the first child, to the next sibling and to
the parent, and never above the node that it started at.
-/

namespace SubmissionGrader.Syntax

/-- A node, the siblings behind it, and the same for each node above it, innermost first. -/
structure TreeCursor where
  node : Concrete
  behind : List Concrete
  above : List (Concrete × List Concrete)

namespace TreeCursor

def start (root : Concrete) : TreeCursor := ⟨root, [], []⟩

def firstChild? (c : TreeCursor) : Option TreeCursor :=
  match c.node.children with
  | [] => none
  | child :: behind => some ⟨child, behind, (c.node, c.behind) :: c.above⟩

def nextSibling? (c : TreeCursor) : Option TreeCursor :=
  match c.behind with
  | [] => none
  | sibling :: behind => some ⟨sibling, behind, c.above⟩

def parent? (c : TreeCursor) : Option TreeCursor :=
  match c.above with
  | [] => none
  | (parent, behind) :: above => some ⟨parent, behind, above⟩

theorem length_above_of_parent? {c parent : TreeCursor} (h : c.parent? = some parent) :
    parent.above.length < c.above.length := by
  rw [parent?] at h
  split at h
  next => cases h
  next habove =>
    cases h
    rw [habove, List.length_cons]
    exact Nat.lt_succ_self _

end TreeCursor

end SubmissionGrader.Syntax
