import SubmissionGrader.Proofs.Syntax.Lowering

/-!
# The nodes of a lowered tree

In preorder, a lowered tree has the nodes that the visits add, one visit after the other. A visit
adds the node of what is visited, behind the parameters around a bare one, unless what is visited
only groups its children.
-/

namespace SubmissionGrader.Syntax.Lowering

variable (source : List Char)

/-- The node that a concrete node becomes, with all below it. -/
def lowered (t : Concrete) : Node :=
  .node (kindOf source t) (contributions source (some t) t.children)

@[simp] theorem kind_lowered (t : Concrete) : (lowered source t).kind = kindOf source t := rfl

/-- The nodes that a visit adds by itself. -/
def Visit.nodes (v : Visit) : List Node :=
  let inner := contributions source (some v.node) v.node.children
  let own := if isGroup v.node then [] else [lowered source v.node]
  if isBare v.around.head? v.node then
    .node .params (if isGroup v.node then inner else [lowered source v.node]) :: own
  else own

/-- What a visit adds stands in front of what the visits below it add. -/
theorem flatMap_preorder_assemble (v : Visit) :
    (assemble source v.around.head? v.node
        (contributions source (some v.node) v.node.children)).flatMap Node.preorder =
      v.nodes source ++
        (contributions source (some v.node) v.node.children).flatMap Node.preorder := by
  rw [assemble, Visit.nodes]
  by_cases hbare : isBare v.around.head? v.node = true
  · by_cases hgroup : isGroup v.node = true
    · simp [hbare, hgroup, Node.preorder_node]
    · simp [hbare, hgroup, lowered, Node.preorder_node]
  · by_cases hgroup : isGroup v.node = true
    · simp [hbare, hgroup]
    · simp [hbare, hgroup, lowered, Node.preorder_node]

theorem flatMap_preorder_contributions {ts : List Concrete} (around : List Concrete)
    (h : ∀ t ∈ ts, (contribution source around.head? t).flatMap Node.preorder =
      (visits around t).flatMap (Visit.nodes source)) :
    (contributions source around.head? ts).flatMap Node.preorder =
      (visitsAll around ts).flatMap (Visit.nodes source) := by
  induction ts with
  | nil => rfl
  | cons t rest ih =>
    rw [contributions, visitsAll, List.flatMap_append, List.flatMap_append, h t (by simp),
      ih fun u hu => h u (by simp [hu])]

theorem flatMap_preorder_contribution (t : Concrete) (around : List Concrete) :
    (contribution source around.head? t).flatMap Node.preorder =
      (visits around t).flatMap (Visit.nodes source) := by
  induction t generalizing around with
  | node head children ih =>
    generalize ht : Concrete.node head children = t
    have hchildren : t.children = children := by rw [← ht, Concrete.children_node]
    have hbelow : (contributions source (some t) t.children).flatMap Node.preorder =
        (visitsAll (t :: around) t.children).flatMap (Visit.nodes source) := by
      rw [hchildren]
      exact flatMap_preorder_contributions source (t :: around) fun u hu => ih u hu (t :: around)
    rw [contribution_eq, visits_eq]
    by_cases hentered : isEntered t = true
    · rw [if_pos hentered, if_pos hentered, List.flatMap_cons, ← hbelow]
      exact flatMap_preorder_assemble source ⟨t, around⟩
    · rw [if_neg hentered, if_neg hentered]
      rfl

/-- The nodes of a lowered tree behind the root are those that the visits add. -/
theorem preorder_program (ts : List Concrete) :
    (Node.node .program (contributions source none ts)).preorder =
      .node .program (contributions source none ts) ::
        (visitsAll [] ts).flatMap (Visit.nodes source) := by
  rw [Node.preorder_node, ← flatMap_preorder_contributions source [] fun t _ =>
    flatMap_preorder_contribution source t []]
  rfl

end SubmissionGrader.Syntax.Lowering
