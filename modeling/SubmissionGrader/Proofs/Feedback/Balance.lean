import Mathlib.Data.Nat.Find
import SubmissionGrader.Proofs.Feedback.Spans
import SubmissionGrader.Proofs.Text.Wording

/-!
# Balance of brackets

A word can be made balanced iff it closes nothing that is not open (`isExtendable_iff`). The check
of brackets tells balanced words, those that can be made balanced, and all others apart
(`bracket_check_decides_balance`).
-/

namespace SubmissionGrader.Feedback

/-- More brackets behind the word can make it balanced. -/
def IsExtendable (word : List Char) : Prop := ∃ more, Balanced (word ++ more)

/-- The shortest beginning of a word that no more brackets can make balanced. -/
structure IsDeadEnd (word front : List Char) : Prop where
  isPrefix : front <+: word
  not_isExtendable : ¬IsExtendable front
  length_le : ∀ other, other <+: word → ¬IsExtendable other → front.length ≤ other.length

/-- The bracket that was opened last of those that are open at the end: all brackets behind it have
their partners there. -/
def IsInnermostOpen (word : List Char) (opening : Char) : Prop :=
  ∃ front closed, word = front ++ opening :: closed ∧ isOpening opening = true ∧ Balanced closed

variable {c opening : Char} {front stack opened word : List Char}

/-! ## Beginnings of balanced words -/

theorem exists_openingOf?_eq (h : isOpening opening = true) :
    ∃ closing, openingOf? closing = some opening := by
  simp only [isOpening, Bool.or_eq_true, beq_iff_eq] at h
  obtain (rfl | rfl) | rfl := h
  · exact ⟨'\x7d', rfl⟩
  · exact ⟨']', rfl⟩
  · exact ⟨')', rfl⟩

theorem isOpening_of_isBracket (h : isBracket c = true) (hopening : openingOf? c = none) :
    isOpening c = true := by
  simpa [isBracket, hopening] using h

theorem exists_closers (h : ∀ c ∈ stack, isOpening c = true) :
    ∃ more, openAfter? stack more = some [] := by
  induction stack with
  | nil => exact ⟨[], rfl⟩
  | cons opening below ih =>
    obtain ⟨hopening, hbelow⟩ := List.forall_mem_cons.1 h
    obtain ⟨closing, hpartner⟩ := exists_openingOf?_eq hopening
    obtain ⟨more, hmore⟩ := ih hbelow
    exact ⟨closing :: more, by rw [openAfter?_closing hpartner, hmore]⟩

/-- A word can be made balanced if and only if it closes nothing that is not open. -/
theorem isExtendable_iff (hword : ∀ c ∈ word, isBracket c = true) :
    IsExtendable word ↔ ∃ stack, openAfter? [] word = some stack := by
  constructor
  · rintro ⟨more, hmore⟩
    rw [balanced_iff, openAfter?_append, Option.bind_eq_some_iff] at hmore
    obtain ⟨stack, hstack, -⟩ := hmore
    exact ⟨stack, hstack⟩
  · rintro ⟨stack, hstack⟩
    have hopenings : ∀ c ∈ stack, isOpening c = true := by
      intro c hc
      obtain ⟨hmem, hopening⟩ := (leavesOpen_iff.2 hstack).mem c hc
      exact isOpening_of_isBracket (hword c hmem) hopening
    obtain ⟨more, hmore⟩ := exists_closers hopenings
    refine ⟨more, ?_⟩
    rw [balanced_iff, openAfter?_append, hstack, Option.bind_some, hmore]

theorem Balanced.isExtendable (h : Balanced word) : IsExtendable word :=
  ⟨[], by rwa [List.append_nil]⟩

/-- Only the last bracket of a dead end is at fault. -/
theorem IsDeadEnd.exists_concat (h : IsDeadEnd word front) :
    ∃ before c, front = before ++ [c] ∧ IsExtendable before := by
  obtain rfl | ⟨before, c, rfl⟩ := List.eq_nil_or_concat' front
  · exact absurd Balanced.nil.isExtendable h.not_isExtendable
  · refine ⟨before, c, rfl, not_not.1 fun hbefore => ?_⟩
    have hle := h.length_le before ((List.prefix_append before [c]).trans h.isPrefix) hbefore
    rw [List.length_append, List.length_singleton] at hle
    omega

theorem exists_isDeadEnd (h : ¬IsExtendable word) : ∃ front, IsDeadEnd word front := by
  classical
  -- Beginnings of a word are told apart by their lengths.
  have hlength : ∃ n, ¬IsExtendable (word.take n) := ⟨word.length, by rwa [List.take_length]⟩
  refine ⟨word.take (Nat.find hlength), List.take_prefix _ _, Nat.find_spec hlength, ?_⟩
  intro other hother hnot
  rw [List.prefix_iff_eq_take.1 hother] at hnot
  exact (List.length_take_le _ _).trans (Nat.find_min' hlength hnot)

theorem exists_isInnermostOpen (hword : ∀ c ∈ word, isBracket c = true)
    (hextendable : IsExtendable word) (h : ¬Balanced word) :
    ∃ opening, IsInnermostOpen word opening := by
  obtain ⟨stack, hstack⟩ := (isExtendable_iff hword).1 hextendable
  cases leavesOpen_iff.2 hstack with
  | balanced hbalanced => exact absurd hbalanced h
  | @opened front stack closed opening _ hopening hclosed =>
    refine ⟨opening, front, closed, rfl, isOpening_of_isBracket (hword opening ?_) hopening,
      hclosed⟩
    exact List.mem_append_right front List.mem_cons_self

/-! ## The check of a word -/

theorem balance_append (h : openAfter? stack front = some opened) (rest : List Char) :
    balance stack (front ++ rest) = balance opened rest := by
  induction front generalizing stack with
  | nil =>
    cases h
    rfl
  | cons c front ih =>
    rw [← List.singleton_append, openAfter?_append, Option.bind_eq_some_iff] at h
    obtain ⟨before, hbefore, hfront⟩ := h
    rw [List.cons_append, balance]
    obtain ⟨hopening, rfl⟩ | ⟨opening, hpartner, rfl⟩ :=
      openAfter?_singleton_eq_some_iff.1 hbefore
    · rw [hopening]
      exact ih hfront
    · rw [hpartner]
      exact (if_pos (beq_self_eq_true opening)).trans (ih hfront)

theorem balance_of_openAfter? (h : openAfter? stack word = some opened) :
    balance stack word = opened.head?.map .unclosed := by
  have hword := balance_append h []
  rwa [List.append_nil] at hword

theorem balance_cons_of_openAfter?_eq_none (h : openAfter? stack [c] = none) (rest : List Char) :
    balance stack (c :: rest) = some (.mismatched c) := by
  rw [openAfter?] at h
  rw [balance]
  cases hpartner : openingOf? c with
  | none =>
    rw [hpartner] at h
    cases h
  | some opening =>
    rw [hpartner] at h
    cases stack with
    | nil => rfl
    | cons top below =>
      dsimp only at h ⊢
      split at h
      next => cases h
      next hne => rw [if_neg hne]

section Verdicts

variable (hword : ∀ c ∈ word, isBracket c = true)
include hword

theorem balance_of_isDeadEnd (h : IsDeadEnd word front) :
    ∃ c, front.getLast? = some c ∧ balance [] word = some (.mismatched c) := by
  obtain ⟨before, c, rfl, hbefore⟩ := h.exists_concat
  refine ⟨c, List.getLast?_concat, ?_⟩
  obtain ⟨rest, rfl⟩ := h.isPrefix
  have hall : ∀ d ∈ before ++ [c], isBracket d = true :=
    fun d hd => hword d (List.mem_append_left rest hd)
  obtain ⟨stack, hstack⟩ :=
    (isExtendable_iff fun d hd => hall d (List.mem_append_left [c] hd)).1 hbefore
  have hlast : openAfter? stack [c] = none := by
    rw [← Option.not_isSome_iff_eq_none, Option.isSome_iff_exists]
    rintro ⟨opened, hopened⟩
    refine h.not_isExtendable ((isExtendable_iff hall).2 ⟨opened, ?_⟩)
    rw [openAfter?_append, hstack, Option.bind_some, hopened]
  rw [List.append_assoc, balance_append hstack]
  exact balance_cons_of_openAfter?_eq_none hlast rest

theorem balance_of_isInnermostOpen (hextendable : IsExtendable word)
    (h : IsInnermostOpen word opening) : balance [] word = some (.unclosed opening) := by
  obtain ⟨stack, hstack⟩ := (isExtendable_iff hword).1 hextendable
  obtain ⟨front, closed, rfl, hopening, hclosed⟩ := h
  rw [openAfter?_append, Option.bind_eq_some_iff] at hstack
  obtain ⟨opened, hopened, -⟩ := hstack
  obtain ⟨closing, hpartner⟩ := exists_openingOf?_eq hopening
  have hbehind : openAfter? opened (opening :: closed) = some (opening :: opened) := by
    rw [openAfter?_opening (openingOf?_of_openingOf? hpartner), hclosed.openAfter?_eq]
  rw [balance_append hopened, balance_of_openAfter? hbehind]
  rfl

theorem balance_eq_mismatched_iff :
    balance [] word = some (.mismatched c) ↔
      ∃ front, IsDeadEnd word front ∧ front.getLast? = some c := by
  constructor
  · intro h
    have hnot : ¬IsExtendable word := by
      intro hextendable
      obtain ⟨stack, hstack⟩ := (isExtendable_iff hword).1 hextendable
      rw [balance_of_openAfter? hstack, Option.map_eq_some_iff] at h
      obtain ⟨opening, -, hfault⟩ := h
      cases hfault
    obtain ⟨front, hfront⟩ := exists_isDeadEnd hnot
    obtain ⟨d, hlast, hfault⟩ := balance_of_isDeadEnd hword hfront
    cases h.symm.trans hfault
    exact ⟨front, hfront, hlast⟩
  · rintro ⟨front, hfront, hlast⟩
    obtain ⟨d, hd, hfault⟩ := balance_of_isDeadEnd hword hfront
    cases hlast.symm.trans hd
    exact hfault

theorem balance_eq_unclosed_iff :
    balance [] word = some (.unclosed opening) ↔
      IsExtendable word ∧ ¬Balanced word ∧ IsInnermostOpen word opening := by
  constructor
  · intro h
    have hextendable : IsExtendable word := by
      by_contra hnot
      obtain ⟨front, hfront⟩ := exists_isDeadEnd hnot
      obtain ⟨c, -, hfault⟩ := balance_of_isDeadEnd hword hfront
      cases h.symm.trans hfault
    have hbalanced : ¬Balanced word := by
      rw [balanced_iff, ← balance_eq_none_iff, h]
      exact Option.some_ne_none _
    obtain ⟨innermost, hinnermost⟩ := exists_isInnermostOpen hword hextendable hbalanced
    cases h.symm.trans (balance_of_isInnermostOpen hword hextendable hinnermost)
    exact ⟨hextendable, hbalanced, hinnermost⟩
  · rintro ⟨hextendable, -, hinnermost⟩
    exact balance_of_isInnermostOpen hword hextendable hinnermost

end Verdicts

/-! ## The check of a source -/

theorem BracketFault.message_injective : Function.Injective BracketFault.message := by
  have hfront : ¬"Mismatched brackets around \"".toList <+: "Unclosed bracket: \"".toList ∧
      ¬"Unclosed bracket: \"".toList <+: "Mismatched brackets around \"".toList := by
    decide +kernel
  intro a b h
  cases a with
  | mismatched c =>
    cases b with
    | mismatched d =>
      rw [message_mismatched, message_mismatched, String.append_left_inj,
        String.append_right_inj] at h
      exact congrArg mismatched (String.singleton_inj.1 h)
    | unclosed d =>
      rw [message_mismatched, message_unclosed, String.append_assoc, String.append_assoc] at h
      exact absurd h (Text.append_ne_append_of_front hfront.1 hfront.2 _ _)
  | unclosed c =>
    cases b with
    | mismatched d =>
      rw [message_unclosed, message_mismatched, String.append_assoc, String.append_assoc] at h
      exact absurd h (Text.append_ne_append_of_front hfront.2 hfront.1 _ _)
    | unclosed d =>
      rw [message_unclosed, message_unclosed, String.append_left_inj, String.append_right_inj] at h
      exact congrArg unclosed (String.singleton_inj.1 h)

/-- The check of brackets decides balance. The brackets of a source outside of its spans make a
word. There is no fault iff the word is balanced. It is at the end of the shortest beginning of the
word that nothing can make balanced, if there is one. Otherwise it is the innermost bracket that is
still open. -/
theorem bracket_check_decides_balance (source : String) :
    ∃ word, (∀ other, Visible source.toList other ↔ other = word) ∧
      ((bracketFault? source).map BracketFault.message = none ↔ Balanced word) ∧
      (∀ c, (bracketFault? source).map BracketFault.message =
          some ("Mismatched brackets around \"" ++ c.toString ++ "\"") ↔
        ∃ front, IsDeadEnd word front ∧ front.getLast? = some c) ∧
      ∀ opening, (bracketFault? source).map BracketFault.message =
          some ("Unclosed bracket: \"" ++ opening.toString ++ "\"") ↔
        IsExtendable word ∧ ¬Balanced word ∧ IsInnermostOpen word opening := by
  have hvisible : Visible source.toList (visible .code source.toList) := visible_iff.2 rfl
  have hfault : ∀ fault, (bracketFault? source).map BracketFault.message = some fault.message ↔
      balance [] (visible .code source.toList) = some fault := by
    intro fault
    rw [← Option.map_some, (Option.map_injective BracketFault.message_injective).eq_iff,
      bracketFault?]
  refine ⟨visible .code source.toList, fun other => visible_iff.trans eq_comm, ?_, fun c => ?_,
    fun opening => ?_⟩
  · rw [Option.map_eq_none_iff, bracketFault?, balance_eq_none_iff, balanced_iff]
  · rw [← BracketFault.message_mismatched, hfault]
    exact balance_eq_mismatched_iff hvisible.all_isBracket
  · rw [← BracketFault.message_unclosed, hfault]
    exact balance_eq_unclosed_iff hvisible.all_isBracket

/-- The slash behind the beginning of a block comment does not end it; a quote hides a bracket. -/
example : bracketFault? "[ '(' /*/ ( */" = some (.unclosed '[') := by decide +kernel

end SubmissionGrader.Feedback
