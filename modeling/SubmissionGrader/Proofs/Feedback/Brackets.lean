import Mathlib.Data.List.Induction
import SubmissionGrader.Feedback.Brackets

/-!
# Words of brackets

`openAfter? stack word` is what is open behind a word of brackets. Words are balanced if they leave
nothing open, and these are the words that are made of groups (`balanced_iff`). A balanced word is
closed in itself, so it may stand anywhere in another word. The brackets that stay open behind a
word stand between balanced words (`leavesOpen_iff`).
-/

namespace SubmissionGrader.Feedback

theorem BracketFault.message_mismatched (c : Char) :
    (mismatched c).message = "Mismatched brackets around \"" ++ c.toString ++ "\"" := rfl

theorem BracketFault.message_unclosed (c : Char) :
    (unclosed c).message = "Unclosed bracket: \"" ++ c.toString ++ "\"" := rfl

/-- The brackets that are open behind a word, if it closes none that is not open. -/
def openAfter? (stack : List Char) : List Char → Option (List Char)
  | [] => some stack
  | c :: rest =>
    match openingOf? c with
    | none => openAfter? (c :: stack) rest
    | some opening =>
      match stack with
      | top :: below => if top == opening then openAfter? below rest else none
      | [] => none

def isBalanced (word : List Char) : Bool := openAfter? [] word == some []

/-- Words in which each bracket has its partner. -/
inductive Balanced : List Char → Prop where
  | nil : Balanced []
  | group {opening closing : Char} {inner rest : List Char} :
      openingOf? closing = some opening → Balanced inner → Balanced rest →
      Balanced (opening :: (inner ++ closing :: rest))

/-- A word and the brackets that it leaves open, the innermost one first. -/
inductive LeavesOpen : List Char → List Char → Prop where
  | balanced {word : List Char} : Balanced word → LeavesOpen word []
  | opened {front stack closed : List Char} {opening : Char} :
      LeavesOpen front stack → openingOf? opening = none → Balanced closed →
      LeavesOpen (front ++ opening :: closed) (opening :: stack)

variable {c opening closing : Char} {stack opened word u v : List Char}

/-! ## Brackets one by one -/

theorem openingOf?_of_openingOf? (h : openingOf? closing = some opening) :
    openingOf? opening = none := by
  revert h
  fun_cases openingOf? closing <;> rintro ⟨⟩ <;> rfl

theorem openAfter?_opening (h : openingOf? opening = none) (stack rest : List Char) :
    openAfter? stack (opening :: rest) = openAfter? (opening :: stack) rest := by
  rw [openAfter?, h]

theorem openAfter?_closing (h : openingOf? closing = some opening) (stack rest : List Char) :
    openAfter? (opening :: stack) (closing :: rest) = openAfter? stack rest := by
  rw [openAfter?, h]
  exact if_pos (beq_self_eq_true opening)

/-- A bracket is opened, or it closes the innermost one. -/
theorem openAfter?_singleton_eq_some_iff :
    openAfter? stack [c] = some opened ↔
      (openingOf? c = none ∧ opened = c :: stack) ∨
        ∃ opening, openingOf? c = some opening ∧ stack = opening :: opened := by
  rw [openAfter?]
  cases openingOf? c with
  | none => simp [openAfter?, eq_comm]
  | some opening =>
    cases stack with
    | nil => simp
    | cons top below => simp [openAfter?]

theorem openAfter?_append (stack u v : List Char) :
    openAfter? stack (u ++ v) = (openAfter? stack u).bind (openAfter? · v) := by
  induction u generalizing stack with
  | nil => rfl
  | cons c rest ih =>
    rw [List.cons_append, openAfter?, openAfter?]
    cases openingOf? c with
    | none => exact ih (c :: stack)
    | some opening =>
      cases stack with
      | nil => rfl
      | cons top below =>
        dsimp only
        split
        next => exact ih below
        next => rfl

theorem balance_eq_none_iff :
    balance stack word = none ↔ openAfter? stack word = some [] := by
  induction word generalizing stack with
  | nil => cases stack <;> simp [balance, openAfter?]
  | cons c rest ih =>
    rw [balance, openAfter?]
    cases openingOf? c with
    | none => exact ih
    | some opening =>
      cases stack with
      | nil => simp
      | cons top below =>
        dsimp only
        split
        next => exact ih
        next => simp

/-! ## Groups -/

theorem Balanced.append (hu : Balanced u) (hv : Balanced v) : Balanced (u ++ v) := by
  induction hu with
  | nil => exact hv
  | group hpartner hinner _ _ ih =>
    rw [List.cons_append, List.append_assoc, List.cons_append]
    exact .group hpartner hinner ih

theorem Balanced.openAfter?_eq (h : Balanced word) (stack : List Char) :
    openAfter? stack word = some stack := by
  induction h generalizing stack with
  | nil => rfl
  | group hpartner _ _ hinner hrest =>
    rw [openAfter?_opening (openingOf?_of_openingOf? hpartner), openAfter?_append, hinner,
      Option.bind_some, openAfter?_closing hpartner, hrest]

theorem LeavesOpen.append_balanced (h : LeavesOpen word stack) (hv : Balanced v) :
    LeavesOpen (word ++ v) stack := by
  cases h with
  | balanced hword => exact .balanced (hword.append hv)
  | opened hfront hopening hclosed =>
    rw [List.append_assoc, List.cons_append]
    exact .opened hfront hopening (hclosed.append hv)

theorem LeavesOpen.mem (h : LeavesOpen word stack) :
    ∀ c ∈ stack, c ∈ word ∧ openingOf? c = none := by
  induction h with
  | balanced _ => simp
  | opened _ hopening _ ih =>
    refine List.forall_mem_cons.2 ⟨⟨by simp, hopening⟩, fun c hc => ?_⟩
    exact ⟨List.mem_append_left _ (ih c hc).1, (ih c hc).2⟩

/-- What is open behind a word. -/
theorem leavesOpen_iff : LeavesOpen word stack ↔ openAfter? [] word = some stack := by
  constructor
  · intro h
    induction h with
    | balanced hword => exact hword.openAfter?_eq []
    | opened _ hopening hclosed ih =>
      rw [openAfter?_append, ih, Option.bind_some, openAfter?_opening hopening,
        hclosed.openAfter?_eq]
  · intro h
    -- The last bracket is open, or it makes a group with the innermost one in front of it.
    induction word using List.reverseRecOn generalizing stack with
    | nil =>
      cases h
      exact .balanced .nil
    | append_singleton word c ih =>
      rw [openAfter?_append, Option.bind_eq_some_iff] at h
      obtain ⟨before, hbefore, hlast⟩ := h
      obtain ⟨hopening, rfl⟩ | ⟨opening, hpartner, rfl⟩ :=
        openAfter?_singleton_eq_some_iff.1 hlast
      · exact .opened (ih hbefore) hopening .nil
      · cases ih hbefore with
        | @opened front _ closed _ hfront _ hclosed =>
          rw [List.append_assoc, List.cons_append]
          exact hfront.append_balanced (.group hpartner hclosed .nil)

theorem balanced_iff : Balanced word ↔ openAfter? [] word = some [] := by
  rw [← leavesOpen_iff]
  refine ⟨.balanced, fun h => ?_⟩
  cases h with
  | balanced hword => exact hword

theorem isBalanced_iff : isBalanced word = true ↔ Balanced word := by
  rw [isBalanced, beq_iff_eq, balanced_iff]

theorem openAfter?_of_isBalanced {word : List Char} (h : isBalanced word = true)
    (stack : List Char) : openAfter? stack word = some stack :=
  (isBalanced_iff.1 h).openAfter?_eq stack

end SubmissionGrader.Feedback
