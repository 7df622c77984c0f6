import SubmissionGrader.Proofs.Checker.Compile
import SubmissionGrader.Proofs.Checker.Slicing

/-!
# Offsets of errors

A property of the offsets of all tokens is one of the offset of every error: the parser names no
other places (`Parser.Keeps`). The offsets of the tokens of a text are those at which the reader
cuts it, so an error points between two characters, or at an end of the text.
-/

namespace SubmissionGrader

/-- If the error names a place, this offset has the property. -/
def CheckerError.PlacedAt (p : Nat → Prop) : CheckerError → Prop
  | malformed offset _ => p offset
  | _ => True

namespace Checker

/-- The offsets of the tokens and of their end have the property. -/
def Tokens.PlacedAt (p : Nat → Prop) : Tokens → Prop
  | finish offset => p offset
  | fault offset _ => p offset
  | cons _ offset rest => p offset ∧ rest.PlacedAt p

/-- The outcome is a value for which the postcondition holds, or an error whose place has the
property. -/
def Ends (p : Nat → Prop) {α : Type} (post : α → Prop) : Except CheckerError α → Prop
  | .ok a => post a
  | .error error => error.PlacedAt p

/-- In front of tokens whose offsets have the property, the parser leaves such tokens, or it ends
with an error whose place has the property. -/
def Parser.Keeps (p : Nat → Prop) (parser : Parser) : Prop :=
  ∀ (budget : Nat) {tokens : Tokens}, tokens.PlacedAt p →
    Ends p (fun r => r.2.PlacedAt p) (parser budget tokens)

section Keeping

variable {p : Nat → Prop}

theorem Ends.bind {α β : Type} {post : α → Prop} {post' : β → Prop} {x : Except CheckerError α}
    {f : α → Except CheckerError β} (hx : Ends p post x) (hf : ∀ a, post a → Ends p post' (f a)) :
    Ends p post' (x >>= f) := by
  cases x with
  | ok a => exact hf a hx
  | error error => exact hx

/-! ## The moves of the parser -/

namespace Tokens.PlacedAt

variable {tokens : Tokens}

theorem offset (h : tokens.PlacedAt p) : p tokens.offset := by
  cases tokens with
  | cons t offset rest => exact h.1
  | _ => exact h

theorem unexpected (h : tokens.PlacedAt p) : tokens.unexpected.PlacedAt p := by
  cases tokens with
  | cons t offset rest => exact h.1
  | _ => exact h

theorem advance (h : tokens.PlacedAt p) : Ends p (PlacedAt p) tokens.advance := by
  unfold Tokens.advance
  split
  next => exact h.2
  next => exact h.2
  next => exact h

theorem expect (h : tokens.PlacedAt p) (op : Operator) :
    Ends p (PlacedAt p) (tokens.expect op) := by
  rw [Tokens.expect]
  split
  next => exact h.advance
  next => exact h.offset

end Tokens.PlacedAt

namespace Parser

variable {nested : Parser}

theorem keeps_deeper (h : nested.Keeps p) : nested.deeper.Keeps p := by
  intro budget tokens htokens
  cases budget with
  | zero => trivial
  | succ budget => exact h budget htokens

/-- What every step of a loop keeps, the loop keeps. -/
theorem keeps_loop {step? : Operator → Option (Expression → Parser)}
    (hstep : ∀ op step, step? op = some step → ∀ left, (step left).Keeps p) {budget : Nat}
    (left : Expression) {tokens : Tokens} (htokens : tokens.PlacedAt p) :
    Ends p (fun r => r.2.PlacedAt p) (loop step? budget left tokens) := by
  induction budget generalizing left tokens with
  | zero =>
    rw [loop.eq_def]
    dsimp only
    cases tokens.operator?.bind step? with
    | none => exact htokens
    | some step => exact htokens.advance.bind fun _ _ => trivial
  | succ budget ih =>
    rw [loop.eq_def]
    dsimp only
    cases hop : tokens.operator?.bind step? with
    | none => exact htokens
    | some step =>
      obtain ⟨op, -, hop⟩ := Option.bind_eq_some_iff.1 hop
      exact htokens.advance.bind fun behind hbehind =>
        (hstep op step hop left budget hbehind).bind fun r hr => ih r.1 hr

theorem keeps_chain {operand : Parser} (h : operand.Keeps p)
    (join? : Operator → Option (Expression → Expression → Expression)) :
    (chain join? operand).Keeps p := by
  intro budget tokens htokens
  rw [chain_eq]
  refine (h budget htokens).bind fun r hr => keeps_loop (fun op step hstep left => ?_) r.1 hr
  obtain ⟨join, -, rfl⟩ := Option.map_eq_some_iff.1 hstep
  intro budget tokens htokens
  exact (h budget htokens).bind fun r hr => hr

theorem keeps_enclosed (h : nested.Keeps p) (close : Operator) :
    (enclosed nested close).Keeps p := by
  intro budget tokens htokens
  exact (keeps_deeper h budget htokens).bind fun r hr => (hr.expect close).bind fun _ hrest => hrest

theorem keeps_primary (h : nested.Keeps p) : (primary nested).Keeps p := by
  intro budget tokens htokens
  unfold primary
  split
  · exact htokens.advance.bind fun _ hbehind => hbehind
  · exact htokens.advance.bind fun _ hbehind => hbehind
  · exact htokens.advance.bind fun _ hbehind => hbehind
  · exact htokens.advance.bind fun _ hbehind => keeps_enclosed h .closeParen budget hbehind
  · exact htokens.unexpected

theorem keeps_property (h : nested.Keeps p) (target : Expression) :
    (property nested target).Keeps p := by
  intro budget tokens htokens
  rw [property]
  refine htokens.advance.bind fun behind hbehind => ?_
  split
  · exact hbehind
  · exact (hbehind.expect .openParen).bind fun _ hopen =>
      (keeps_deeper h budget hopen).bind fun r hr =>
        (hr.expect .closeParen).bind fun _ hrest => hrest
  · exact htokens.offset
  · exact htokens.offset

theorem keeps_position (h : nested.Keeps p) (target : Expression) :
    (position nested target).Keeps p := by
  intro budget tokens htokens
  rw [position_eq]
  exact (keeps_enclosed h .closeBracket budget htokens).bind fun _ hr => hr

theorem keeps_suffixed (h : nested.Keeps p) : (suffixed nested).Keeps p := by
  intro budget tokens htokens
  rw [suffixed_eq]
  refine (keeps_primary h budget htokens).bind fun r hr =>
    keeps_loop (fun op step hstep left => ?_) r.1 hr
  unfold suffixStep? at hstep
  split at hstep
  next =>
    obtain rfl := Option.some.inj hstep
    exact keeps_property h left
  next =>
    obtain rfl := Option.some.inj hstep
    exact keeps_position h left
  next => cases hstep

theorem keeps_negated (h : nested.Keeps p) : (negated nested).Keeps p := by
  intro budget
  induction budget with
  | zero =>
    intro tokens htokens
    by_cases hop : tokens.operator? = some .not
    · obtain ⟨offset, behind, rfl⟩ := Tokens.operator?_eq_some hop
      rw [negated_not]
      exact htokens.advance.bind fun _ _ => trivial
    · rw [negated_other hop]
      exact keeps_suffixed h _ htokens
  | succ budget ih =>
    intro tokens htokens
    by_cases hop : tokens.operator? = some .not
    · obtain ⟨offset, behind, rfl⟩ := Tokens.operator?_eq_some hop
      rw [negated_not]
      exact htokens.advance.bind fun _ hbehind => (ih hbehind).bind fun _ hr => hr
    · rw [negated_other hop]
      exact keeps_suffixed h _ htokens

theorem keeps_disjunction (h : nested.Keeps p) : (disjunction nested).Keeps p :=
  keeps_chain (keeps_chain (keeps_chain (keeps_chain (keeps_negated h) _) _) _) _

theorem keeps_expression (n : Nat) : (expression n).Keeps p := by
  induction n with
  | zero =>
    have hrefused : Keeps p fun _ _ => .error .tooDeep := fun _ _ _ => trivial
    exact keeps_disjunction hrefused
  | succ n ih => exact keeps_disjunction ih

end Parser

/-- An error of a text points at one of its tokens or at its end, or to its beginning. -/
theorem Tokens.PlacedAt.parseTokens {tokens : Tokens} (h : tokens.PlacedAt p) (hzero : p 0) :
    Ends p (fun _ => True) (parseTokens tokens) := by
  cases tokens with
  | finish offset => exact hzero
  | fault offset cause => exact h
  | cons t offset rest =>
    rw [parseTokens_eq (.cons t offset (.nil rest))]
    refine (Parser.keeps_expression maxDepth maxDepth h).bind fun r hr => ?_
    split
    next => trivial
    next => exact hr.unexpected

/-- The places of the tokens of a run are the starts of its calls and its end. -/
theorem Run.placedAt {source : List Char} {position : Nat} {calls : List Call} {tokens : Tokens}
    (h : Run source position calls tokens) (hcalls : ∀ call ∈ calls, p call.start)
    (hending : p tokens.ending) : tokens.PlacedAt p := by
  induction h with
  | finish => exact hending
  | fault => exact hending
  | token call _ _ ih =>
    obtain ⟨hcall, hcalls⟩ := List.forall_mem_cons.1 hcalls
    exact ⟨hcall, ih hcalls hending⟩

end Keeping

/-- Reading a text by slices comes to an end, and no slice is out of range or begins or ends within
a character. It gives the tokens that the parser sees. Each call moves on, past white space and a
token as it is written, and these pieces with the white space in front of the end are the text up to
there, which is all of it unless there is a fault. If the text is malformed, the offset of the error
is one at which it can be cut. -/
theorem reading_passes_text (source : String) :
    (∃ calls pieces blanks, Run source.toList 0 calls (.ofChars source.toList) ∧
      List.Forall₂ (Call.Passes source) calls pieces ∧
      IsBoundary source (Tokens.ofChars source.toList).ending ∧
      (∀ c ∈ blanks, Text.isBlank c = true) ∧
      Syntax.prefixOf source.toList (Tokens.ofChars source.toList).ending =
        some (pieces.flatMap Piece.text ++ blanks) ∧
      ((Tokens.ofChars source.toList).isFinished = true →
        (Tokens.ofChars source.toList).ending = source.utf8ByteSize)) ∧
    ∀ offset cause,
      compile source = .error (.malformed offset cause) → IsBoundary source offset := by
  obtain ⟨calls, hrun⟩ := exists_run source.toList
  obtain ⟨pieces, blanks, behind, hpieces, hblanks, hsource, hbehind, hending⟩ :=
    hrun.exists_pieces (List.nil_append _).symm rfl
  rw [List.nil_append] at hending
  have hboundary := isBoundary_byteCount hsource
  rw [← hending] at hboundary
  have hpassed := Syntax.prefixOf_byteCount_append (pieces.flatMap Piece.text ++ blanks) behind
  rw [← hsource, ← hending] at hpassed
  have hfinished : (Tokens.ofChars source.toList).isFinished = true →
      (Tokens.ofChars source.toList).ending = source.utf8ByteSize := by
    intro h
    rw [hbehind h, List.append_nil] at hsource
    rw [hending, ← hsource, Syntax.byteCount_toList]
  refine ⟨⟨calls, pieces, blanks, hrun, hpieces, hboundary, hblanks, hpassed, hfinished⟩,
    fun offset cause h => ?_⟩
  have hstarts : ∀ call ∈ calls, IsBoundary source call.start :=
    ((List.forall₂_and_left _ _).1 (hpieces.imp fun _ _ h => ⟨h.start_isBoundary, h⟩)).1
  have hzero : IsBoundary source 0 := isBoundary_byteCount (List.nil_append _).symm
  have hends := (hrun.placedAt hstarts hboundary).parseTokens hzero
  rw [compile_eq_error_iff.1 h] at hends
  exact hends

end Checker

end SubmissionGrader
