import SubmissionGrader.Checker.Parse
import SubmissionGrader.Proofs.Checker.Lexemes

/-!
# The token sequence of a text

`Tokenizes offset cs ts` says that reading one token after the other from `cs`
gives exactly `ts` and ends at the end of the text. It carries no fuel: the
sequence `Tokens.ofChars` is bounded by the number of characters, and since no
token is empty the bound never cuts it off. `Tokens.Splits` cuts such a
sequence into the tokens in front and what is left behind them.
-/

namespace SubmissionGrader.Checker

/-- The text `cs` at byte offset `offset` consists of the tokens `ts` and of white
space. -/
inductive Tokenizes : Nat → List Char → List Token → Prop
  | finish {offset stop : Nat} {cs : List Char} :
      nextLexeme offset cs = .finish stop → Tokenizes offset cs []
  | token {offset start stop : Nat} {cs rest : List Char} {t : Token} {ts : List Token} :
      nextLexeme offset cs = .token t start stop rest → Tokenizes stop rest ts →
        Tokenizes offset cs (t :: ts)

theorem Tokenizes.unique {offset : Nat} {cs : List Char} {ts us : List Token}
    (h : Tokenizes offset cs ts) (h' : Tokenizes offset cs us) : ts = us := by
  induction h generalizing us with
  | finish h =>
      cases h' with
      | finish => rfl
      | token h' => simp [h] at h'
  | token h _ ih =>
      cases h' with
      | finish h' => simp [h] at h'
      | token h' htail =>
          obtain ⟨rfl, rfl, rfl, rfl⟩ := Lexeme.token.inj (h.symm.trans h')
          rw [ih htail]

/-- Every token takes at least one character. -/
theorem length_nextLexeme_lt {offset start stop : Nat} {cs rest : List Char} {t : Token}
    (h : nextLexeme offset cs = .token t start stop rest) : rest.length < cs.length := by
  obtain ⟨blanks, written, rfl, -, -, -, hwritten, -⟩ := nextLexeme_eq_token_iff.1 h
  obtain ⟨c, cs, rfl, -⟩ := hwritten.exists_eq_cons
  simp only [List.length_append, List.length_cons]
  omega

/-! ## Cutting a token sequence in two -/

namespace Tokens

/-- The sequence begins with the tokens in the list and goes on with `rest`. -/
inductive Splits : Tokens → List Token → Tokens → Prop
  | nil (tokens : Tokens) : Splits tokens [] tokens
  | cons {tokens rest : Tokens} {ts : List Token} (t : Token) (offset : Nat) :
      Splits tokens ts rest → Splits (.cons t offset tokens) (t :: ts) rest

theorem splits_nil_iff {tokens rest : Tokens} : tokens.Splits [] rest ↔ tokens = rest := by
  constructor
  · intro h
    cases h
    rfl
  · rintro rfl
    exact Splits.nil tokens

theorem splits_cons_iff {tokens rest : Tokens} {t : Token} {ts : List Token} :
    tokens.Splits (t :: ts) rest ↔
      ∃ offset behind, tokens = .cons t offset behind ∧ behind.Splits ts rest := by
  constructor
  · intro h
    cases h with
    | cons t offset h => exact ⟨offset, _, rfl, h⟩
  · rintro ⟨offset, behind, rfl, h⟩
    exact Splits.cons t offset h

theorem splits_append_iff {tokens rest : Tokens} {ts us : List Token} :
    tokens.Splits (ts ++ us) rest ↔
      ∃ middle, tokens.Splits ts middle ∧ middle.Splits us rest := by
  induction ts generalizing tokens with
  | nil => simp [splits_nil_iff]
  | cons t ts ih =>
      simp only [List.cons_append, splits_cons_iff, ih]
      constructor
      · rintro ⟨offset, behind, rfl, middle, hts, hus⟩
        exact ⟨middle, ⟨offset, behind, rfl, hts⟩, hus⟩
      · rintro ⟨middle, ⟨offset, behind, rfl, hts⟩, hus⟩
        exact ⟨offset, behind, rfl, middle, hts, hus⟩

theorem Splits.append {tokens middle rest : Tokens} {ts us : List Token}
    (h : tokens.Splits ts middle) (h' : middle.Splits us rest) :
    tokens.Splits (ts ++ us) rest :=
  splits_append_iff.2 ⟨middle, h, h'⟩

/-! ## The fuel of the reader suffices -/

/-- With more fuel than characters, what the reader makes of a text is its token
sequence. -/
theorem splits_read_iff {fuel offset : Nat} {cs : List Char} {ts : List Token}
    (hfuel : cs.length < fuel) :
    (∃ stop, (read fuel offset cs).Splits ts (.finish stop)) ↔ Tokenizes offset cs ts := by
  induction fuel generalizing offset cs ts with
  | zero => omega
  | succ fuel ih =>
      rw [read]
      cases hnext : nextLexeme offset cs with
      | finish stop =>
          constructor
          · rintro ⟨_, h⟩
            cases h
            exact Tokenizes.finish hnext
          · intro h
            cases h with
            | finish => exact ⟨stop, Splits.nil _⟩
            | token h => simp [hnext] at h
      | fault stop cause =>
          constructor
          · rintro ⟨_, h⟩
            cases h
          · intro h
            cases h with
            | finish h => simp [hnext] at h
            | token h => simp [hnext] at h
      | token t start stop rest =>
          have hlt : rest.length < fuel := by
            have := length_nextLexeme_lt hnext
            omega
          constructor
          · rintro ⟨last, h⟩
            cases h with
            | cons _ _ h => exact Tokenizes.token hnext ((ih hlt).1 ⟨last, h⟩)
          · intro h
            cases h with
            | finish h => simp [hnext] at h
            | token h htail =>
                simp only [hnext, Lexeme.token.injEq] at h
                obtain ⟨rfl, rfl, rfl, rfl⟩ := h
                obtain ⟨last, h⟩ := (ih hlt).2 htail
                exact ⟨last, Splits.cons t start h⟩

theorem splits_ofChars_iff {cs : List Char} {ts : List Token} :
    (∃ stop, (ofChars cs).Splits ts (.finish stop)) ↔ Tokenizes 0 cs ts :=
  splits_read_iff (Nat.lt_succ_self cs.length)

end Tokens

end SubmissionGrader.Checker
