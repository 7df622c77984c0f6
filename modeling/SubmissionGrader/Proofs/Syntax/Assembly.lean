import SubmissionGrader.Proofs.Syntax.Recursion

/-!
# The state of the visit

`Within` says what the state keeps of the nodes around the cursor: the counters
count them, and the innermost entry is that of the innermost one. `enter_eq` and
`leave_add_push` say what entering and leaving do in such a state. A node is
entered by `push`, and when its children have added their nodes to the innermost
frame, leaving it has added the contribution of the node to the state before.
-/

namespace SubmissionGrader.Syntax.Lowering.Assembly

/-- The state with more nodes in its innermost frame. -/
def add (s : Assembly) (nodes : List Node) : Assembly :=
  match s.frames with
  | [] => s
  | inner :: rest =>
    { s with frames := { inner with children := nodes.reverse ++ inner.children } :: rest }

theorem add_nil (s : Assembly) : s.add [] = s := by
  obtain ⟨frames, entries, depth, functions⟩ := s
  cases frames <;> rfl

theorem add_add (s : Assembly) (nodes more : List Node) :
    (s.add nodes).add more = s.add (nodes ++ more) := by
  obtain ⟨frames, entries, depth, functions⟩ := s
  cases frames with
  | nil => rfl
  | cons inner rest => simp [add]

/-- The state inside of the given nodes, innermost first, none of which is nested too
deeply. -/
structure Within (s : Assembly) (limit : Nat) (around : List Concrete) : Prop where
  depth_eq : s.depth = around.countP isCounted
  functions_eq : s.functions = around.countP isFunction
  isArrow_eq : s.entries.head?.map Entry.isArrow = around.head?.map (Concrete.is · .arrowFunction)
  depth_le : s.depth ≤ limit
  frames_ne : s.frames ≠ []

variable {source : List Char} {limit : Nat} {s : Assembly} {around : List Concrete}

theorem within_start (limit : Nat) : start.Within limit [] :=
  ⟨rfl, rfl, rfl, Nat.zero_le limit, List.cons_ne_nil _ _⟩

theorem Within.add (h : s.Within limit around) (nodes : List Node) :
    (s.add nodes).Within limit around := by
  obtain ⟨frames, entries, depth, functions⟩ := s
  cases frames with
  | nil => exact h
  | cons inner rest =>
      exact ⟨h.depth_eq, h.functions_eq, h.isArrow_eq, h.depth_le, List.cons_ne_nil _ _⟩

/-- A state inside of nodes knows whether the next one is a bare parameter. -/
theorem Within.isBare_eq (h : s.Within limit around) (t : Concrete) :
    ((s.entries.head?.map Entry.isArrow).getD false && t.field == some .parameter) =
      isBare around.head? t := by
  rw [h.isArrow_eq, isBare]
  cases around.head? <;> rfl

theorem Within.push (h : s.Within limit around) {t : Concrete}
    (ht : (⟨t, around⟩ : Visit).Passes source limit) :
    (s.push source t).Within limit (t :: around) := by
  have hdepth : (s.push source t).depth = (t :: around).countP isCounted := by
    rw [List.countP_cons, ← h.depth_eq, Assembly.push]
    dsimp only
    split <;> rfl
  refine ⟨hdepth, ?_, rfl, hdepth ▸ ht.2, ?_⟩
  · rw [List.countP_cons, ← h.functions_eq, Assembly.push]
    dsimp only
    split <;> rfl
  · rw [Assembly.push]
    dsimp only
    split <;> exact List.cons_ne_nil _ _

/-- A node is left out, refused with the error of its visit, or pushed. -/
theorem enter_eq (h : s.Within limit around) (t : Concrete) :
    enter source limit s t =
      if isEntered t then
        ((⟨t, around⟩ : Visit).error? source limit).elim (.ok (some (s.push source t))) .error
      else .ok none := by
  by_cases hentered : isEntered t = true
  · have hkept : (!t.isNamed || isSkipped t) = false := by
      simpa [isEntered] using hentered
    rw [if_pos hentered, enter, hkept, Visit.error?, Visit.functions, ← h.functions_eq]
    cases earlyError? source s.functions t with
    | some error => rfl
    | none =>
        have hdepth := h.depth_eq
        have hlimit := h.depth_le
        cases hcounted : isCounted t with
        | true =>
            have hvisit : (⟨t, around⟩ : Visit).depth = s.depth + 1 := by
              rw [Visit.depth, List.countP_cons_of_pos hcounted, hdepth]
            by_cases hdeep : limit < s.depth + 1
            · simp [hvisit, hdeep]
            · simp [hvisit, hdeep]
        | false =>
            have hvisit : (⟨t, around⟩ : Visit).depth = s.depth := by
              rw [Visit.depth, List.countP_cons_of_neg (by simp [hcounted]), hdepth]
            simp [hvisit, Nat.not_lt.2 hlimit]
  · have hskipped : (!t.isNamed || isSkipped t) = true := by
      rw [isEntered] at hentered
      revert hentered
      cases t.isNamed <;> cases isSkipped t <;> decide
    rw [if_neg hentered, enter, hskipped]
    rfl

/-- Leaving a node takes back what entering it has changed and adds its contribution. -/
theorem leave_add_push (h : s.Within limit around) (t : Concrete) (nodes : List Node) :
    ((s.push source t).add nodes).leave = s.add (assemble source around.head? t nodes) := by
  rw [push, h.isBare_eq, assemble]
  have hframes := h.frames_ne
  obtain ⟨frames, entries, depth, functions⟩ := s
  cases frames with
  | nil => exact absurd rfl hframes
  | cons outer rest =>
      cases isBare around.head? t <;> cases isGroup t <;> cases isCounted t <;>
        cases isFunction t <;> simp [add, leave, closeFrames, closeFrame]

end SubmissionGrader.Syntax.Lowering.Assembly
