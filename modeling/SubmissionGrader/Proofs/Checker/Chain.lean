import SubmissionGrader.Proofs.Checker.Loop

/-!
# Reading chains

`Parser.Reads parse l n` says what a parser of the level `l` does for budgets
below `n`: in front of tokens that cannot continue a phrase it reads every phrase
whose nesting the budget covers and refuses every other one as too deep; it
reads nothing else; and whatever it refuses, the text is at fault. A chain
carries this specification from the parser of its operands to its own level.
-/

namespace SubmissionGrader.Checker.Parser

/-- What a parser of the level does with budgets below `n`. -/
structure Reads (parse : Parser) (l : Level) (n : Nat) : Prop where
  complete : ∀ (p : Phrase l) {budget : Nat} {tokens rest : Tokens}, budget < n →
    tokens.Splits p.tokens rest → rest.Stops l →
      parse budget tokens =
        if p.nesting ≤ budget then .ok (p.expression, rest) else .error .tooDeep
  sound : ∀ {budget : Nat} {tokens rest : Tokens} {e : Expression},
    parse budget tokens = .ok (e, rest) →
      ∃ p : Phrase l, tokens.Splits p.tokens rest ∧ p.expression = e
  syntactic : ∀ {budget : Nat} {tokens : Tokens} {error : CheckerError},
    parse budget tokens = .error error → error.isSyntactic = true

/-! ## Chains -/

/-- The step of a chain reads an operand and joins it. -/
def linkStep? (join? : Operator → Option (Expression → Expression → Expression))
    (operand : Parser) (op : Operator) : Option (Expression → Parser) :=
  (join? op).map fun join left budget tokens => do
    let (right, rest) ← operand budget tokens
    return (join left right, rest)

theorem bind_linkStep? (join? : Operator → Option (Expression → Expression → Expression))
    (operand : Parser) (op : Option Operator) :
    op.bind (linkStep? join? operand) =
      (op.bind join?).map fun join left budget tokens => do
        let (right, rest) ← operand budget tokens
        return (join left right, rest) := by
  cases op <;> rfl

theorem links_eq_loop (join? : Operator → Option (Expression → Expression → Expression))
    (operand : Parser) (budget : Nat) (left : Expression) (tokens : Tokens) :
    links join? operand budget left tokens =
      loop (linkStep? join? operand) budget left tokens := by
  induction budget generalizing left tokens with
  | zero =>
      rw [links.eq_def, loop.eq_def]
      simp only [bind_linkStep?]
      cases tokens.operator?.bind join? <;> rfl
  | succ budget ih =>
      rw [links.eq_def, loop.eq_def]
      simp only [bind_linkStep?]
      cases tokens.operator?.bind join? with
      | none => rfl
      | some join =>
          cases tokens.advance with
          | error error => rfl
          | ok behind =>
              cases hright : operand budget behind with
              | error error => simp [hright]
              | ok r => simp [hright, ih, pure, Except.pure]

theorem chain_eq (join? : Operator → Option (Expression → Expression → Expression))
    (operand : Parser) (budget : Nat) (tokens : Tokens) :
    chain join? operand budget tokens =
      operand budget tokens >>= fun r => loop (linkStep? join? operand) budget r.1 r.2 := by
  rw [chain]
  cases operand budget tokens with
  | error error => rfl
  | ok r => exact links_eq_loop join? operand budget r.1 r.2

/-- Reading a chain comes down to going on behind it with the budget that its links
leave, unless one of its operands does not get along with what is left for it. -/
theorem chain_run {level : ChainLevel} {operand : Parser} {n : Nat}
    (h : Reads operand level.operand n) :
    ∀ (p : Phrase (.chain level)) {budget : Nat} {tokens rest : Tokens}, budget < n →
      tokens.Splits p.tokens rest → rest.Stops level.operand →
        chain level.join? operand budget tokens =
          if p.nesting ≤ budget then
            loop (linkStep? level.join? operand) (budget - p.links) p.expression rest
          else .error .tooDeep
  | .single first, budget, tokens, rest, hbudget, hsplit, hstop => by
      have hnesting : (Phrase.single first).nesting = first.nesting := rfl
      rw [chain_eq, h.complete first hbudget hsplit hstop, hnesting]
      by_cases hle : first.nesting ≤ budget
      · rw [if_pos hle, if_pos hle]
        rfl
      · rw [if_neg hle, if_neg hle, error_bind]
  | @Phrase.link _ op join left joins right, budget, tokens, rest, hbudget, hsplit, hstop => by
      obtain ⟨middle, hleft, hsplit⟩ := Tokens.splits_append_iff.1 hsplit
      obtain ⟨offset, behind, rfl, hright⟩ := Tokens.splits_cons_iff.1 hsplit
      have hmiddle : (Tokens.cons (.operator op) offset behind).Stops level.operand := by
        have heq := joins.tightness_eq
        have hrank := level.rank_operand
        simp only [Tokens.Stops]
        omega
      have hop : linkStep? level.join? operand op = some fun left budget tokens => do
          let (right, rest) ← operand budget tokens
          return (join left right, rest) := by
        rw [linkStep?, ChainLevel.join?_eq_some_iff.2 joins]
        rfl
      rw [chain_run h left hbudget hleft hmiddle]
      refine loop_extend right.nesting left.links_le_nesting hop
        (Tokens.advance_eq _ offset hright hstop) ?_
      intro b hb
      rw [h.complete right (by omega) hright hstop]
      by_cases hle : right.nesting ≤ b
      · rw [if_pos hle, if_pos hle]
        rfl
      · rw [if_neg hle, if_neg hle]
        rfl

theorem linkStep?_eq_some {level : ChainLevel} {operand : Parser} {op : Operator}
    {step : Expression → Parser} (h : linkStep? level.join? operand op = some step) :
    ∃ join, level.Joins op join ∧ step = fun left budget tokens => do
      let (right, rest) ← operand budget tokens
      return (join left right, rest) := by
  obtain ⟨join, hjoin, rfl⟩ := Option.map_eq_some_iff.1 h
  exact ⟨join, ChainLevel.join?_eq_some_iff.1 hjoin, rfl⟩

theorem bind_linkStep?_eq_none {level : ChainLevel} {rest : Tokens} (operand : Parser)
    (h : rest.Stops (.chain level)) :
    rest.operator?.bind (linkStep? level.join? operand) = none := by
  rw [bind_linkStep?, h.join?_eq_none]
  rfl

theorem reads_chain {level : ChainLevel} {operand : Parser} {n : Nat}
    (h : Reads operand level.operand n) :
    Reads (chain level.join? operand) (.chain level) n where
  complete := by
    intro p budget tokens rest hbudget hsplit hstop
    rw [chain_run h p hbudget hsplit hstop.operand,
      loop_stop (bind_linkStep?_eq_none operand hstop)]
  sound := by
    intro budget tokens rest e hparse
    rw [chain_eq] at hparse
    obtain ⟨⟨first, middle⟩, hfirst, hlinks⟩ := bind_eq_ok_iff.1 hparse
    obtain ⟨q, hq, rfl⟩ := h.sound hfirst
    refine loop_invariant (fun e rest => ∃ p : Phrase (.chain level),
      tokens.Splits p.tokens rest ∧ p.expression = e) ?_ ⟨.single q, hq, rfl⟩ hlinks
    rintro op step offset behind b _ e' rest ⟨left, hleft, rfl⟩ hop hstep
    obtain ⟨join, hjoin, rfl⟩ := linkStep?_eq_some hop
    obtain ⟨⟨right, rest⟩, hright, heq⟩ := bind_eq_ok_iff.1 hstep
    obtain ⟨r, hr, rfl⟩ := h.sound hright
    cases heq
    exact ⟨.link left hjoin r, hleft.append (Tokens.Splits.cons _ offset hr), rfl⟩
  syntactic := by
    intro budget tokens error hparse
    rw [chain_eq] at hparse
    rcases bind_eq_error_iff.1 hparse with hfirst | ⟨r, _, hlinks⟩
    · exact h.syntactic hfirst
    · refine isSyntactic_loop ?_ hlinks
      intro op step b e behind error hop hstep
      obtain ⟨join, -, rfl⟩ := linkStep?_eq_some hop
      rcases bind_eq_error_iff.1 hstep with hright | ⟨r, _, heq⟩
      · exact h.syntactic hright
      · cases heq

end SubmissionGrader.Checker.Parser
