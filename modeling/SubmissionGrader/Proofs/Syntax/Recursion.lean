import SubmissionGrader.Syntax.Lowering

/-!
# Lowering by recursion

`contribution source parent t` is what a concrete node adds to the syntax tree, by
recursion on the node, and `visits around t` lists the nodes that the recursion
enters, each with the nodes around it. Which sources are refused is said of the
visits: `Visit.error?` is the error of a single one.
-/

namespace SubmissionGrader.Syntax.Lowering

/-- All but tokens and what is left out. -/
def isEntered (t : Concrete) : Bool := t.isNamed && !isSkipped t

/-- The parameter of an arrow function without parentheses. -/
def isBare (parent : Option Concrete) (t : Concrete) : Bool :=
  parent.any (Concrete.is · .arrowFunction) && t.field == some .parameter

section Contribution

variable (source : List Char)

/-- What a node adds around what its children add. -/
def assemble (parent : Option Concrete) (t : Concrete) (inner : List Node) : List Node :=
  let own := if isGroup t then inner else [.node (kindOf source t) inner]
  if isBare parent t then [.node .params own] else own

mutual

def contribution (parent : Option Concrete) : Concrete → List Node
  | .node head children =>
    if isEntered (.node head children) then
      assemble source parent (.node head children)
        (contributions (some (.node head children)) children)
    else []

def contributions (parent : Option Concrete) : List Concrete → List Node
  | [] => []
  | t :: rest => contribution parent t ++ contributions parent rest

end

theorem contribution_eq (parent : Option Concrete) (t : Concrete) :
    contribution source parent t =
      if isEntered t then assemble source parent t (contributions source (some t) t.children)
      else [] := by
  cases t with
  | node head children => rw [contribution, Concrete.children_node]

end Contribution

/-- A node that is entered, and the nodes around it below the root, innermost first. -/
structure Visit where
  node : Concrete
  around : List Concrete

mutual

def visits (around : List Concrete) : Concrete → List Visit
  | .node head children =>
    if isEntered (.node head children) then
      ⟨.node head children, around⟩ :: visitsAll (.node head children :: around) children
    else []

def visitsAll (around : List Concrete) : List Concrete → List Visit
  | [] => []
  | t :: rest => visits around t ++ visitsAll around rest

end

theorem visits_eq (around : List Concrete) (t : Concrete) :
    visits around t =
      if isEntered t then ⟨t, around⟩ :: visitsAll (t :: around) t.children else [] := by
  cases t with
  | node head children => rw [visits, Concrete.children_node]

namespace Visit

variable (source : List Char) (limit : Nat) (v : Visit)

def functions : Nat := v.around.countP isFunction

/-- The counted nodes on the path to the node, the node included. -/
def depth : Nat := (v.node :: v.around).countP isCounted

/-- The node has no early error and is not nested too deeply. -/
def Passes : Prop := earlyError? source v.functions v.node = none ∧ v.depth ≤ limit

/-- The error of the node. Early errors are found before nesting. -/
def error? : Option SyntaxError :=
  (earlyError? source v.functions v.node).or
    (if limit < v.depth then some (depthError source limit v.node) else none)

theorem error?_eq_none_iff : v.error? source limit = none ↔ v.Passes source limit := by
  rw [error?, Passes, Option.or_eq_none_iff]
  refine and_congr_right fun _ => ?_
  by_cases h : limit < v.depth
  · simp [h]
  · simp [h, Nat.le_of_not_lt h]

end Visit

end SubmissionGrader.Syntax.Lowering
