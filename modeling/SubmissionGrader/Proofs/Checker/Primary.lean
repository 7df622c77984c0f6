import SubmissionGrader.Proofs.Checker.Chain

/-!
# Reading primary phrases

A primary phrase is a single token or a whole phrase in parentheses. Parentheses,
`.includes( … )` and `[ … ]` share one reader, `Parser.enclosed`: a whole phrase
one level deeper, up to the operator that closes it.
-/

namespace SubmissionGrader.Checker.Parser

/-! ## Brackets -/

/-- A whole expression one level deeper, up to the operator that closes it. -/
def enclosed (nested : Parser) (close : Operator) : Parser := fun budget tokens => do
  let (inner, rest) ← nested.deeper budget tokens
  return (inner, ← rest.expect close)

theorem enclosed_complete {nested : Parser} {n : Nat}
    (h : Reads nested (.chain .disjunction) n) (inner : Phrase (.chain .disjunction))
    {close : Operator} {l : Level} {budget : Nat} {tokens rest : Tokens}
    (hclose : close.tightness = 0) (hbudget : budget < n + 1)
    (hsplit : tokens.Splits (inner.tokens ++ [.operator close]) rest) (hstop : rest.Stops l) :
    enclosed nested close budget tokens =
      if 1 + inner.nesting ≤ budget then .ok (inner.expression, rest)
      else .error .tooDeep := by
  obtain ⟨middle, hinner, hsplit⟩ := Tokens.splits_append_iff.1 hsplit
  obtain ⟨offset, behind, rfl, hnil⟩ := Tokens.splits_cons_iff.1 hsplit
  obtain rfl := Tokens.splits_nil_iff.1 hnil
  rw [enclosed]
  cases budget with
  | zero => rw [if_neg (by omega)]; rfl
  | succ budget =>
      have hmiddle : (Tokens.cons (.operator close) offset behind).Stops
          (.chain .disjunction) := by simp [Tokens.Stops, hclose, Level.rank]
      rw [deeper, h.complete inner (by omega) hinner hmiddle]
      by_cases hle : inner.nesting ≤ budget
      · rw [if_pos hle, if_pos (by omega), ok_bind]
        simp only [Tokens.expect_eq_advance, Tokens.advance_eq _ offset hnil hstop, ok_bind]
        rfl
      · rw [if_neg hle, if_neg (by omega), error_bind]

theorem enclosed_sound {nested : Parser} {n : Nat}
    (h : Reads nested (.chain .disjunction) n) {close : Operator} {budget : Nat}
    {tokens rest : Tokens} {e : Expression}
    (henclosed : enclosed nested close budget tokens = .ok (e, rest)) :
    ∃ inner : Phrase (.chain .disjunction),
      tokens.Splits (inner.tokens ++ [.operator close]) rest ∧ inner.expression = e := by
  obtain ⟨⟨e', middle⟩, hinner, hclose⟩ := bind_eq_ok_iff.1 henclosed
  obtain ⟨behind, hexpect, heq⟩ := bind_eq_ok_iff.1 hclose
  cases heq
  cases budget with
  | zero => simp [deeper] at hinner
  | succ budget =>
      obtain ⟨inner, hsplit, rfl⟩ := h.sound hinner
      exact ⟨inner, hsplit.append (Tokens.expect_eq_ok hexpect), rfl⟩

theorem isSyntactic_enclosed {nested : Parser} {n : Nat}
    (h : Reads nested (.chain .disjunction) n) {close : Operator} {budget : Nat}
    {tokens : Tokens} {error : CheckerError}
    (henclosed : enclosed nested close budget tokens = .error error) :
    error.isSyntactic = true := by
  rcases bind_eq_error_iff.1 henclosed with hinner | ⟨⟨e, middle⟩, _, hclose⟩
  · cases budget with
    | zero => cases hinner; rfl
    | succ budget => exact h.syntactic hinner
  · rcases bind_eq_error_iff.1 hclose with hexpect | ⟨behind, _, heq⟩
    · exact Tokens.isSyntactic_expect hexpect
    · cases heq

/-! ## Primary expressions -/

def leaf? : Token → Option (Phrase .primary)
  | .number value => some (.number value)
  | .text value => some (.text value)
  | .name value => some (.word value)
  | .operator _ => none

theorem primary_leaf {t : Token} {p : Phrase .primary} (h : leaf? t = some p)
    (nested : Parser) (budget offset : Nat) (tokens : Tokens) :
    primary nested budget (.cons t offset tokens) =
      (Tokens.cons t offset tokens).advance >>= fun behind => .ok (p.expression, behind) := by
  cases t <;> cases h <;> rfl

theorem primary_parens (nested : Parser) (budget offset : Nat) (tokens : Tokens) :
    primary nested budget (.cons (.operator .openParen) offset tokens) =
      (Tokens.cons (.operator .openParen) offset tokens).advance >>=
        enclosed nested .closeParen budget := rfl

theorem primary_unexpected (nested : Parser) (budget : Nat) {tokens : Tokens}
    (hleaf : ∀ t offset behind, tokens = .cons t offset behind → leaf? t = none)
    (hparen : tokens.operator? ≠ some .openParen) :
    primary nested budget tokens = .error tokens.unexpected := by
  unfold primary
  split
  next value offset behind => cases hleaf _ offset behind rfl
  next value offset behind => cases hleaf _ offset behind rfl
  next value offset behind => cases hleaf _ offset behind rfl
  next => exact absurd rfl hparen
  next => rfl

/-- A primary expression is a single token, or something in parentheses, or refused. -/
theorem primary_cases (nested : Parser) (budget : Nat) (tokens : Tokens) :
    (∃ t p offset behind, leaf? t = some p ∧ tokens = .cons t offset behind) ∨
      (∃ offset behind, tokens = .cons (.operator .openParen) offset behind) ∨
      primary nested budget tokens = .error tokens.unexpected := by
  by_cases hparen : tokens.operator? = some .openParen
  · exact Or.inr (Or.inl (Tokens.operator?_eq_some hparen))
  · cases tokens with
    | finish stop => exact Or.inr (Or.inr rfl)
    | fault offset cause => exact Or.inr (Or.inr rfl)
    | cons t offset behind =>
        cases hleaf : leaf? t with
        | some p => exact Or.inl ⟨t, p, offset, behind, hleaf, rfl⟩
        | none =>
            refine Or.inr (Or.inr (primary_unexpected nested budget ?_ hparen))
            intro t' offset' behind' heq
            cases heq
            exact hleaf

theorem leaf_complete {t : Token} {p : Phrase .primary} (h : leaf? t = some p)
    (nested : Parser) (budget : Nat) {l : Level} {tokens rest : Tokens}
    (hsplit : tokens.Splits [t] rest) (hstop : rest.Stops l) :
    primary nested budget tokens = .ok (p.expression, rest) := by
  obtain ⟨offset, behind, rfl, hnil⟩ := Tokens.splits_cons_iff.1 hsplit
  obtain rfl := Tokens.splits_nil_iff.1 hnil
  rw [primary_leaf h, Tokens.advance_eq t offset hnil hstop, ok_bind]

theorem tokens_leaf {t : Token} {p : Phrase .primary} (h : leaf? t = some p) :
    p.tokens = [t] := by
  cases t <;> cases h <;> rfl

theorem reads_primary {nested : Parser} {n : Nat} (h : Reads nested (.chain .disjunction) n) :
    Reads (primary nested) .primary (n + 1) where
  complete := by
    intro p budget tokens rest hbudget hsplit hstop
    cases p with
    | number value => exact leaf_complete rfl nested budget hsplit hstop
    | text value => exact leaf_complete rfl nested budget hsplit hstop
    | word value => exact leaf_complete rfl nested budget hsplit hstop
    | parens inner =>
        obtain ⟨offset, behind, rfl, hinner⟩ := Tokens.splits_cons_iff.1 hsplit
        rw [primary_parens, Tokens.advance_eq _ offset hinner hstop, ok_bind]
        exact enclosed_complete h inner rfl hbudget hinner hstop
  sound := by
    intro budget tokens rest e hparse
    rcases primary_cases nested budget tokens with
      ⟨t, p, offset, tokens, hleaf, rfl⟩ | ⟨offset, tokens, rfl⟩ | herror
    · rw [primary_leaf hleaf] at hparse
      obtain ⟨behind, hbehind, heq⟩ := bind_eq_ok_iff.1 hparse
      obtain rfl := Tokens.advance_eq_ok hbehind
      cases heq
      exact ⟨p, tokens_leaf hleaf ▸ Tokens.Splits.cons t offset (Tokens.Splits.nil _), rfl⟩
    · rw [primary_parens] at hparse
      obtain ⟨behind, hbehind, henclosed⟩ := bind_eq_ok_iff.1 hparse
      obtain rfl := Tokens.advance_eq_ok hbehind
      obtain ⟨inner, hinner, rfl⟩ := enclosed_sound h henclosed
      exact ⟨.parens inner, Tokens.Splits.cons _ offset hinner, rfl⟩
    · simp [herror] at hparse
  syntactic := by
    intro budget tokens error hparse
    rcases primary_cases nested budget tokens with
      ⟨t, p, offset, tokens, hleaf, rfl⟩ | ⟨offset, tokens, rfl⟩ | herror
    · rw [primary_leaf hleaf] at hparse
      rcases bind_eq_error_iff.1 hparse with hadvance | ⟨behind, _, heq⟩
      · exact Tokens.isSyntactic_advance hadvance
      · cases heq
    · rw [primary_parens] at hparse
      rcases bind_eq_error_iff.1 hparse with hadvance | ⟨behind, _, henclosed⟩
      · exact Tokens.isSyntactic_advance hadvance
      · exact isSyntactic_enclosed h henclosed
    · rw [herror] at hparse
      cases hparse
      exact Tokens.isSyntactic_unexpected tokens

end SubmissionGrader.Checker.Parser
