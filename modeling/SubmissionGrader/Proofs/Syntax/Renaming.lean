import SubmissionGrader.Proofs.Syntax.Kinds
import SubmissionGrader.Proofs.Syntax.Places
import SubmissionGrader.Proofs.Syntax.Recursion

/-!
# Lowering with other kinds

`Concrete.loweredBy` makes the syntax tree of a concrete one in which every node becomes what is
said of it and of the path to it. With what a source says of the nodes this is the lowering, and two
such trees are the same if the same is said of every node.
-/

namespace SubmissionGrader.Syntax

namespace Lowering

/-- What a node of a given kind adds around what its children add. -/
def assembleAs (kind : NodeKind) (parent : Option Concrete) (t : Concrete) (inner : List Node) :
    List Node :=
  let own := if isGroup t then inner else [.node kind inner]
  if isBare parent t then [.node .params own] else own

mutual

/-- The nodes that a concrete node adds if it and those below become what is said of them. -/
def contributionBy (kind : List Nat → Concrete → NodeKind) (parent : Option Concrete) :
    Concrete → List Node
  | .node head children =>
    if isEntered (.node head children) then
      assembleAs (kind [] (.node head children)) parent (.node head children)
        (contributionsBy (fun j path => kind (j :: path)) (some (.node head children)) children)
    else []

/-- The nodes that several siblings add. The kinds are those of one sibling after the other. -/
def contributionsBy (kinds : Nat → List Nat → Concrete → NodeKind) (parent : Option Concrete) :
    List Concrete → List Node
  | [] => []
  | t :: rest =>
    contributionBy (kinds 0) parent t ++ contributionsBy (fun j => kinds (j + 1)) parent rest

end

section Kinds

variable {kind kind' : List Nat → Concrete → NodeKind}
variable {kinds kinds' : Nat → List Nat → Concrete → NodeKind}

theorem contributionBy_eq (parent : Option Concrete) (t : Concrete) :
    contributionBy kind parent t =
      if isEntered t then
        assembleAs (kind [] t) parent t
          (contributionsBy (fun j path => kind (j :: path)) (some t) t.children)
      else [] := by
  cases t with
  | node head children => rw [contributionBy, Concrete.children_node]

/-- Siblings that each add what others add under some kinds add it together. -/
theorem contributions_mapIdx {source : List Char} {f : Nat → Concrete → Concrete}
    {parent parent' : Option Concrete} {ts : List Concrete}
    (h : ∀ j c, ts[j]? = some c →
      contribution source parent' (f j c) = contributionBy (kinds j) parent c) :
    contributions source parent' (ts.mapIdx f) = contributionsBy kinds parent ts := by
  induction ts generalizing f kinds with
  | nil => rfl
  | cons t rest ih =>
    rw [List.mapIdx_cons, contributions, contributionsBy, h 0 t rfl,
      ih fun j c hc => h (j + 1) c hc]

theorem contributionsBy_kindOf_of_forall (source : List Char) (parent : Option Concrete)
    {ts : List Concrete} (h : ∀ t ∈ ts, ∀ parent,
      contributionBy (fun _ => kindOf source) parent t = contribution source parent t) :
    contributionsBy (fun _ _ => kindOf source) parent ts = contributions source parent ts := by
  induction ts with
  | nil => rfl
  | cons t rest ih =>
    rw [contributionsBy, contributions, h t (by simp), ih fun u hu => h u (by simp [hu])]

theorem contributionBy_kindOf (source : List Char) (parent : Option Concrete) (t : Concrete) :
    contributionBy (fun _ => kindOf source) parent t = contribution source parent t := by
  induction t generalizing parent with
  | node head children ih =>
    rw [contributionBy, contribution, contributionsBy_kindOf_of_forall source _ ih]
    rfl

/-- With what a source says of the nodes, they add what they add in the lowering. -/
theorem contributionsBy_kindOf (source : List Char) (parent : Option Concrete)
    (ts : List Concrete) :
    contributionsBy (fun _ _ => kindOf source) parent ts = contributions source parent ts :=
  contributionsBy_kindOf_of_forall source parent fun t _ parent =>
    contributionBy_kindOf source parent t

theorem contributionsBy_congr_of_forall {parent : Option Concrete} {ts : List Concrete}
    (hts : ∀ t ∈ ts, ∀ {kind kind' : List Nat → Concrete → NodeKind} {parent : Option Concrete},
      (∀ p u, t.descendant? p = some u → kind p u = kind' p u) →
        contributionBy kind parent t = contributionBy kind' parent t)
    (h : ∀ j c, ts[j]? = some c → ∀ p u, c.descendant? p = some u → kinds j p u = kinds' j p u) :
    contributionsBy kinds parent ts = contributionsBy kinds' parent ts := by
  induction ts generalizing kinds kinds' with
  | nil => rfl
  | cons t rest ih =>
    rw [contributionsBy, contributionsBy, hts t (by simp) (h 0 t rfl),
      ih (fun u hu => hts u (by simp [hu])) fun j c hc => h (j + 1) c hc]

theorem contributionBy_congr {parent : Option Concrete} {t : Concrete}
    (h : ∀ p u, t.descendant? p = some u → kind p u = kind' p u) :
    contributionBy kind parent t = contributionBy kind' parent t := by
  induction t generalizing kind kind' parent with
  | node head children ih =>
    have hchildren : contributionsBy (fun j path => kind (j :: path))
          (some (.node head children)) children =
        contributionsBy (fun j path => kind' (j :: path)) (some (.node head children)) children :=
      contributionsBy_congr_of_forall (fun t ht => ih t ht) fun j c hc p u hu =>
        h (j :: p) u (by rw [Concrete.descendant?, Concrete.children_node, hc]; exact hu)
    rw [contributionBy, contributionBy, h [] _ rfl, hchildren]

section MapKinds

variable {g : NodeKind → NodeKind}

theorem map_mapKinds_contributionsBy_of_forall {parent : Option Concrete} {ts : List Concrete}
    (h : ∀ t ∈ ts, ∀ (kind : List Nat → Concrete → NodeKind) (parent : Option Concrete),
      (contributionBy kind parent t).map (Node.mapKinds g) =
        contributionBy (fun path u => g (kind path u)) parent t) :
    (contributionsBy kinds parent ts).map (Node.mapKinds g) =
      contributionsBy (fun j path u => g (kinds j path u)) parent ts := by
  induction ts generalizing kinds with
  | nil => rfl
  | cons t rest ih =>
    rw [contributionsBy, contributionsBy, List.map_append, h t (by simp),
      ih fun u hu => h u (by simp [hu])]

variable (hg : g .params = .params)
include hg

theorem map_mapKinds_assembleAs (k : NodeKind) (parent : Option Concrete) (t : Concrete)
    (inner : List Node) :
    (assembleAs k parent t inner).map (Node.mapKinds g) =
      assembleAs (g k) parent t (inner.map (Node.mapKinds g)) := by
  rw [assembleAs, assembleAs]
  cases isBare parent t <;> cases isGroup t <;> simp [Node.mapKinds_node, hg]

theorem map_mapKinds_contributionBy (kind : List Nat → Concrete → NodeKind)
    (parent : Option Concrete) (t : Concrete) :
    (contributionBy kind parent t).map (Node.mapKinds g) =
      contributionBy (fun path u => g (kind path u)) parent t := by
  induction t generalizing kind parent with
  | node head children ih =>
    rw [contributionBy, contributionBy]
    split
    next =>
      rw [map_mapKinds_assembleAs hg, map_mapKinds_contributionsBy_of_forall ih]
    next => rfl

end MapKinds

end Kinds

end Lowering

open Lowering

namespace Concrete

variable {kind kind' : List Nat → Concrete → NodeKind} (root : Concrete)

/-- The syntax tree in which the nodes below the root become what is said of them. -/
def loweredBy (kind : List Nat → Concrete → NodeKind) : Node :=
  .node .program (contributionsBy (fun j path => kind (j :: path)) none root.children)

theorem loweredBy_kindOf (source : List Char) :
    root.loweredBy (fun _ => kindOf source) =
      .node .program (contributions source none root.children) := by
  rw [loweredBy, contributionsBy_kindOf]

/-- What is said of the nodes below the root makes the tree. -/
theorem loweredBy_congr
    (h : ∀ p u, p ≠ [] → root.descendant? p = some u → kind p u = kind' p u) :
    root.loweredBy kind = root.loweredBy kind' := by
  refine congrArg (Node.node .program) (contributionsBy_congr_of_forall
    (fun t _ {kind kind' parent} ht => contributionBy_congr ht) fun j c hc p u hu => ?_)
  exact h (j :: p) u (List.cons_ne_nil _ _) (by rw [descendant?, hc]; exact hu)

theorem mapKinds_loweredBy {g : NodeKind → NodeKind} (hparams : g .params = .params)
    (hprogram : g .program = .program) :
    (root.loweredBy kind).mapKinds g = root.loweredBy fun path u => g (kind path u) := by
  rw [loweredBy, loweredBy, Node.mapKinds_node, hprogram,
    map_mapKinds_contributionsBy_of_forall fun t _ kind parent =>
      map_mapKinds_contributionBy hparams kind parent t]

end Concrete

end SubmissionGrader.Syntax
