import SubmissionGrader.Proofs.Syntax.Assembly

/-!
# Lowering is the recursion

The visit with a cursor and its stacks does what the recursion says. For a single
node (`Simulated`), it comes back to the node with its contribution added to the
state, or stops at the first error among the visits below. The steps it takes for
that are `steps`, at most two for every node, so the ones that `lower` allows are
enough.
-/

namespace SubmissionGrader.Syntax

/-- Induction over concrete trees, with the hypothesis for all children. -/
@[elab_as_elim, induction_eliminator]
theorem Concrete.induction {P : Concrete → Prop}
    (node : ∀ head children, (∀ t ∈ children, P t) → P (.node head children))
    (t : Concrete) : P t :=
  @Concrete.rec P (fun ts => ∀ t ∈ ts, P t) node (by simp)
    (fun t rest ht hrest => List.forall_mem_cons.2 ⟨ht, hrest⟩) t

namespace Lowering

mutual

/-- The steps from entering a node to being through with it. -/
def steps : Concrete → Nat
  | .node head children =>
    (if isEntered (.node head children) then stepsAll children else 0) + 1

/-- The steps from entering the first of several siblings to leaving their parent. -/
def stepsAll : List Concrete → Nat
  | [] => 0
  | t :: rest => steps t + 1 + stepsAll rest

end

theorem stepsAll_le {ts : List Concrete} (h : ∀ t ∈ ts, steps t + 1 ≤ 2 * t.count) :
    stepsAll ts ≤ 2 * Concrete.countList ts := by
  induction ts with
  | nil => exact Nat.zero_le _
  | cons t rest ih =>
      have ht := h t (by simp)
      have hrest := ih (fun u hu => h u (by simp [hu]))
      rw [stepsAll, Concrete.countList]
      omega

theorem steps_le (t : Concrete) : steps t + 1 ≤ 2 * t.count := by
  induction t with
  | node head children ih =>
      have hchildren := stepsAll_le ih
      rw [steps, Concrete.count]
      split <;> omega

theorem steps_eq (t : Concrete) :
    steps t = (if isEntered t then stepsAll t.children else 0) + 1 := by
  cases t with
  | node head children => rw [steps, Concrete.children_node]

theorem elim_findSome?_append {α β γ : Type} (f : α → Option β) (xs ys : List α)
    (b : γ) (g : β → γ) :
    ((xs ++ ys).findSome? f).elim b g = (xs.findSome? f).elim ((ys.findSome? f).elim b g) g := by
  rw [List.findSome?_append]
  cases xs.findSome? f <;> rfl

namespace Assembly

variable {source : List Char} {limit : Nat}

/-- Entering a node in a state inside of the nodes around it comes back to the node
with its contribution added, or ends with the first error of its visits. -/
def Simulated (source : List Char) (limit : Nat) (t : Concrete) : Prop :=
  ∀ {s : Assembly} {around : List Concrete}, s.Within limit around →
    ∀ (behind : List Concrete) (above : List (Concrete × List Concrete)) {level : Nat},
      level ≠ 0 → ∀ n : Nat,
        visit source limit (steps t + n) s ⟨t, behind, above⟩ level =
          ((visits around t).findSome? (Visit.error? source limit)).elim
            (climb source limit n (s.add (contribution source around.head? t))
              ⟨t, behind, above⟩ level)
            .error

/-- The siblings from the first one on, up to leaving their parent. The root is not
left. -/
theorem visit_siblings {first : Concrete} {rest : List Concrete}
    (hsimulated : ∀ t ∈ first :: rest, Simulated source limit t)
    {s : Assembly} {around : List Concrete} (h : s.Within limit around)
    (parent : Concrete) (behind : List Concrete) (above : List (Concrete × List Concrete))
    (level n : Nat) :
    visit source limit (stepsAll (first :: rest) + n) s
        ⟨first, rest, (parent, behind) :: above⟩ (level + 1) =
      ((visitsAll around (first :: rest)).findSome? (Visit.error? source limit)).elim
        (if level = 0 then .ok (s.add (contributions source around.head? (first :: rest)))
          else climb source limit n
            (s.add (contributions source around.head? (first :: rest))).leave
            ⟨parent, behind, above⟩ level)
        .error := by
  induction rest generalizing first s with
  | nil =>
      -- One step is left behind the last sibling: the one up to the parent.
      have hsteps : stepsAll [first] + n = steps first + (n + 1) := by
        rw [stepsAll, stepsAll]
        omega
      rw [hsteps, hsimulated first (by simp) h [] _ (Nat.succ_ne_zero level), visitsAll, visitsAll,
        List.append_nil, contributions, contributions, List.append_nil]
      rfl
  | cons second rest ih =>
      have hsteps : stepsAll (first :: second :: rest) + n =
          steps first + (stepsAll (second :: rest) + n + 1) := by
        rw [stepsAll]
        omega
      have hrest := ih (fun t ht => hsimulated t (List.mem_cons_of_mem first ht))
        (h.add (contribution source around.head? first))
      rw [hsteps, hsimulated first (by simp) h _ _ (Nat.succ_ne_zero level), visitsAll,
        elim_findSome?_append, contributions, ← add_add, ← hrest]
      rfl

theorem simulated (source : List Char) (limit : Nat) (t : Concrete) :
    Simulated source limit t := by
  induction t with
  | node head children ih =>
      intro s around h behind above level hlevel n
      -- With a name for the node, the equations below rewrite no more than its children.
      generalize ht : Concrete.node head children = t
      have hchildren : t.children = children := by rw [← ht, Concrete.children_node]
      have hfuel : steps t + n = (if isEntered t then stepsAll children else 0) + n + 1 := by
        rw [steps_eq, hchildren]
        omega
      rw [hfuel, visit, enter_eq h, visits_eq, contribution_eq, hchildren]
      by_cases hentered : isEntered t = true
      · rw [if_pos hentered, if_pos hentered, if_pos hentered, if_pos hentered,
          List.findSome?_cons]
        cases herror : (⟨t, around⟩ : Visit).error? source limit with
        | some error => rfl
        | none =>
            have hpasses := (Visit.error?_eq_none_iff source limit _).1 herror
            have hinner := h.push hpasses
            cases children with
            | nil =>
                have hchild : TreeCursor.firstChild? ⟨t, behind, above⟩ = none := by
                  rw [TreeCursor.firstChild?, hchildren]
                have hleave :
                    (s.push source t).leave = s.add (assemble source around.head? t []) := by
                  rw [← leave_add_push h, add_nil]
                simp only [Option.elim_none, hchild, hleave]
                rw [stepsAll, Nat.zero_add, visitsAll, contributions]
                rfl
            | cons first rest =>
                have hchild : TreeCursor.firstChild? ⟨t, behind, above⟩ =
                    some ⟨first, rest, (t, behind) :: above⟩ := by
                  rw [TreeCursor.firstChild?, hchildren]
                simp only [Option.elim_none, hchild]
                rw [visit_siblings ih hinner, if_neg hlevel, leave_add_push h]
                rfl
      · rw [if_neg hentered, if_neg hentered, if_neg hentered, if_neg hentered, add_nil,
          Nat.zero_add]
        rfl

theorem finish_add_start (nodes : List Node) :
    (start.add nodes).finish = .node .program nodes := by
  simp [finish, add, start, closeFrames]

end Assembly

open Assembly in
/-- The visits decide, and their first error is the one reported. -/
theorem lower_eq_elim_findSome? (source : List Char) (limit : Nat) (root : Concrete) :
    lower source limit root =
      ((visitsAll [] root.children).findSome? (Visit.error? source limit)).elim
        (.ok (.node .program (contributions source none root.children))) .error := by
  cases root with
  | node head children =>
      cases children with
      | nil => rfl
      | cons first rest =>
          have hfuel :
              stepsAll (first :: rest) ≤ 2 * (Concrete.node head (first :: rest)).count := by
            have hsteps := stepsAll_le (fun t (_ : t ∈ first :: rest) => steps_le t)
            rw [Concrete.count]
            omega
          obtain ⟨n, hn⟩ := Nat.exists_eq_add_of_le hfuel
          have hsimulated : ∀ t ∈ first :: rest, Simulated source limit t :=
            fun t _ => simulated source limit t
          have hvisit := visit_siblings hsimulated (within_start limit)
            (.node head (first :: rest)) [] [] 0 n
          rw [if_pos rfl, ← hn] at hvisit
          rw [lower]
          simp only [TreeCursor.start, TreeCursor.firstChild?, Concrete.children_node]
          rw [hvisit]
          cases (visitsAll [] (first :: rest)).findSome? (Visit.error? source limit) with
          | none => exact congrArg Except.ok (finish_add_start _)
          | some error => rfl

/-- A tree comes out only if every visit passes, and then it is the one of the contributions. -/
theorem lower_eq_ok_iff {source : List Char} {limit : Nat} {root : Concrete} {tree : Node} :
    lower source limit root = .ok tree ↔
      (∀ v ∈ visitsAll [] root.children, v.Passes source limit) ∧
        tree = .node .program (contributions source none root.children) := by
  have hpasses : (∀ v ∈ visitsAll [] root.children, v.Passes source limit) ↔
      (visitsAll [] root.children).findSome? (Visit.error? source limit) = none := by
    simp only [List.findSome?_eq_none_iff, Visit.error?_eq_none_iff]
  rw [lower_eq_elim_findSome?, hpasses]
  cases (visitsAll [] root.children).findSome? (Visit.error? source limit) with
  | none => simp [eq_comm]
  | some error => simp

end Lowering

open Lowering in
/-- Lowering is the recursion. It gives the contributions of the nodes below the root
if every node that is entered passes, and no tree otherwise; then it reports the
error of the first one in document order that does not pass. -/
theorem lower_eq_recursion (source : List Char) (limit : Nat) (root : Concrete) :
    (∀ tree, lower source limit root = .ok tree ↔
      (∀ v ∈ visitsAll [] root.children, v.Passes source limit) ∧
        tree = .node .program (contributions source none root.children)) ∧
    ∀ error, lower source limit root = .error error ↔
      ∃ before v after, visitsAll [] root.children = before ++ v :: after ∧
        (∀ u ∈ before, u.Passes source limit) ∧ v.error? source limit = some error := by
  have hpasses : ∀ vs : List Visit, (∀ v ∈ vs, v.Passes source limit) ↔
      vs.findSome? (Visit.error? source limit) = none := by
    intro vs
    rw [List.findSome?_eq_none_iff]
    exact forall₂_congr fun v _ => (v.error?_eq_none_iff source limit).symm
  rw [lower_eq_elim_findSome?]
  constructor
  · intro tree
    rw [hpasses]
    cases (visitsAll [] root.children).findSome? (Visit.error? source limit) with
    | none => simp [eq_comm]
    | some error => simp
  · intro error
    have hfirst : (visitsAll [] root.children).findSome? (Visit.error? source limit) = some error ↔
        ∃ before v after, visitsAll [] root.children = before ++ v :: after ∧
          (∀ u ∈ before, u.Passes source limit) ∧ v.error? source limit = some error := by
      rw [List.findSome?_eq_some_iff]
      simp only [hpasses, List.findSome?_eq_none_iff, and_comm]
    rw [← hfirst]
    cases (visitsAll [] root.children).findSome? (Visit.error? source limit) with
    | none => simp
    | some error => simp

end SubmissionGrader.Syntax
