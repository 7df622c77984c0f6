import Mathlib.Data.List.Basic
import SubmissionGrader.Syntax.Tree

/-!
# Syntax trees with other kinds

`Node.mapKinds` changes the kinds of the nodes of a tree and keeps its shape. So
`Node.withoutMethodNames` leaves out the names of methods.
-/

namespace SubmissionGrader.Syntax

namespace Node

/-- Induction over syntax trees, with the hypothesis for all children. -/
@[elab_as_elim, induction_eliminator]
theorem induction {P : Node → Prop}
    (node : ∀ kind children, (∀ n ∈ children, P n) → P (.node kind children)) (n : Node) : P n :=
  @Node.rec P (fun ns => ∀ n ∈ ns, P n) node (by simp)
    (fun n rest hn hrest => List.forall_mem_cons.2 ⟨hn, hrest⟩) n

section MapKinds

variable (g : NodeKind → NodeKind)

mutual

def mapKinds : Node → Node
  | node kind children => node (g kind) (mapKindsAll children)

def mapKindsAll : List Node → List Node
  | [] => []
  | n :: rest => mapKinds n :: mapKindsAll rest

end

theorem mapKindsAll_eq_map (ns : List Node) : mapKindsAll g ns = ns.map (mapKinds g) := by
  induction ns with
  | nil => rfl
  | cons n rest ih => rw [mapKindsAll, ih, List.map_cons]

theorem mapKinds_node (kind : NodeKind) (children : List Node) :
    (node kind children).mapKinds g = node (g kind) (children.map (mapKinds g)) := by
  rw [mapKinds, mapKindsAll_eq_map]

@[simp] theorem kind_mapKinds (n : Node) : (n.mapKinds g).kind = g n.kind := by
  cases n with
  | node kind children => rw [mapKinds_node]; rfl

@[simp] theorem children_mapKinds (n : Node) :
    (n.mapKinds g).children = n.children.map (mapKinds g) := by
  cases n with
  | node kind children => rw [mapKinds_node]; rfl

theorem first?_mapKinds (n : Node) : (n.mapKinds g).first? = n.first?.map (mapKinds g) := by
  rw [first?, children_mapKinds, List.head?_map, first?]

theorem preorder_mapKinds (n : Node) :
    (n.mapKinds g).preorder = n.preorder.map (mapKinds g) := by
  induction n with
  | node kind children ih =>
    rw [mapKinds_node, preorder_node, preorder_node, List.map_cons, mapKinds_node, List.map_flatMap,
      List.flatMap_map]
    congr 1
    exact List.flatMap_congr ih

end MapKinds

end Node

def NodeKind.withoutMethodName : NodeKind → NodeKind
  | .function .method _ => .function .method none
  | kind => kind

def Node.withoutMethodNames : Node → Node := Node.mapKinds NodeKind.withoutMethodName

end SubmissionGrader.Syntax
