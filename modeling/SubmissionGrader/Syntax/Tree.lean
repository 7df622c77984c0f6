import SubmissionGrader.Syntax.Kind

/-!
# Syntax trees

A syntax tree keeps what the analysis of a submission looks at: kinds with the smallest payload it
needs, and ordered children. `preorder` lists the nodes of a tree, parents before children.
-/

namespace SubmissionGrader.Syntax

inductive FunctionForm where
  | declaration | expression | arrow | method
  deriving DecidableEq, Repr

inductive NodeKind where
  | program
  | variableDeclaration (keyword : String)
  | variableDeclarator
  | function (form : FunctionForm) (name : Option String)
  | params
  | return
  | moduleImport (source : String)
  | objectPattern
  | patternProperty (key : Option String)
  | restElement
  | identifier (name : String)
  | call
  | member (property : Option String)
  | conditional
  | logical (operator : String)
  | binary (operator : String)
  | jsxElement (name : String)
  | jsxFragment
  | jsxAttribute (name : String)
  | other (kind : String)
  deriving DecidableEq, Repr

inductive Node where
  | node (kind : NodeKind) (children : List Node)
  deriving Repr

namespace Node

def kind : Node → NodeKind
  | node kind _ => kind

def children : Node → List Node
  | node _ children => children

@[simp] theorem kind_node (k : NodeKind) (cs : List Node) : (node k cs).kind = k := rfl

@[simp] theorem children_node (k : NodeKind) (cs : List Node) : (node k cs).children = cs := rfl

def first? (n : Node) : Option Node := n.children.head?

def identifierName? (n : Node) : Option String :=
  match n.kind with
  | .identifier name => some name
  | _ => none

mutual

/-- The nodes of the tree, parents before children, from left to right. -/
def preorder : Node → List Node
  | node kind children => node kind children :: preorderList children

def preorderList : List Node → List Node
  | [] => []
  | n :: rest => preorder n ++ preorderList rest

end

theorem preorderList_eq_flatMap (ns : List Node) : preorderList ns = ns.flatMap preorder := by
  induction ns with
  | nil => rfl
  | cons n rest ih => simp [preorderList, ih]

theorem preorder_node (k : NodeKind) (cs : List Node) :
    (node k cs).preorder = node k cs :: cs.flatMap preorder := by
  simp [preorder, preorderList_eq_flatMap]

mutual

def count : Node → Nat
  | node _ children => countAll children + 1

def countAll : List Node → Nat
  | [] => 0
  | n :: rest => count n + countAll rest

end

/-- Combines the nodes on a stack with a value, in at most as many steps as given. The children of
a node are pushed last child first. -/
def walkStack {β : Type} (f : β → Node → β) : Nat → List Node → β → β
  | 0, _, b => b
  | _ + 1, [], b => b
  | steps + 1, n :: stack, b =>
    walkStack f steps (n.children.reverse.foldl (fun stack child => child :: stack) stack) (f b n)

/-- Combines the nodes of the tree with a value, parents before children. -/
def walk {β : Type} (f : β → Node → β) (n : Node) (b : β) : β := walkStack f n.count [n] b

theorem countAll_append (ms ns : List Node) : countAll (ms ++ ns) = countAll ms + countAll ns := by
  induction ms with
  | nil => rw [List.nil_append, countAll, Nat.zero_add]
  | cons m rest ih => rw [List.cons_append, countAll, ih, countAll, Nat.add_assoc]

/-- With a step for each node, the nodes on a stack are combined tree by tree. -/
theorem walkStack_eq_foldl {β : Type} (f : β → Node → β) (steps : Nat) (stack : List Node) (b : β)
    (h : countAll stack ≤ steps) :
    walkStack f steps stack b = (stack.flatMap preorder).foldl f b := by
  induction steps generalizing stack b with
  | zero =>
    cases stack with
    | nil => rfl
    | cons n stack =>
      cases n with
      | node k cs =>
        rw [countAll, count] at h
        omega
  | succ steps ih =>
    cases stack with
    | nil => rfl
    | cons n stack =>
      cases n with
      | node k cs =>
        have hle : countAll (cs ++ stack) ≤ steps := by
          rw [countAll_append]
          rw [countAll, count] at h
          omega
        rw [walkStack, children_node, List.foldl_flip_cons_eq_append', List.reverse_reverse,
          ih _ _ hle, List.flatMap_append, List.flatMap_cons, preorder_node, List.cons_append,
          List.foldl_cons]

/-- A walk visits the nodes in preorder. -/
theorem walk_eq_foldl {β : Type} (f : β → Node → β) (n : Node) (b : β) :
    walk f n b = n.preorder.foldl f b := by
  have hcount : countAll [n] ≤ n.count := Nat.le_of_eq (Nat.add_zero n.count)
  rw [walk, walkStack_eq_foldl f n.count [n] b hcount, List.flatMap_singleton]

def size (n : Node) : Nat := walk (fun count _ => count + 1) n 0

theorem size_eq_length_preorder (n : Node) : n.size = n.preorder.length := by
  rw [size, walk_eq_foldl]
  have step : ∀ (ns : List Node) (k : Nat),
      ns.foldl (fun count _ => count + 1) k = k + ns.length := by
    intro ns
    induction ns with
    | nil => simp
    | cons n rest ih => intro k; simp [ih]; omega
  simp [step n.preorder 0]

end Node

end SubmissionGrader.Syntax
