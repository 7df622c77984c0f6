import SubmissionGrader.Checker
import SubmissionGrader.Proofs.Checker.Suffix

/-!
# Compiling decides the grammar

The levels of the grammar close the circle: the parser of whole expressions with
`n` brackets to go reads whole phrases for budgets up to `n`. On a text this
gives the three answers of `compile`: the tree of its derivation, the refusal of
a derivation that nests too deeply, and an error for everything else.
-/

namespace SubmissionGrader.Checker

namespace Parser

/-! ## Whole expressions -/

theorem reads_disjunction {nested : Parser} {n : Nat}
    (h : Reads nested (.chain .disjunction) n) :
    Reads (disjunction nested) (.chain .disjunction) (n + 1) := by
  have hnegated : Reads (negated nested) ChainLevel.ordering.operand (n + 1) :=
    reads_negated (reads_suffixed h)
  have hordering : Reads _ ChainLevel.equality.operand (n + 1) := reads_chain hnegated
  have hequality : Reads _ ChainLevel.conjunction.operand (n + 1) := reads_chain hordering
  have hconjunction : Reads _ ChainLevel.disjunction.operand (n + 1) := reads_chain hequality
  exact reads_chain hconjunction

/-- With `n` levels of brackets to go, every budget up to `n` is served. -/
theorem reads_expression (n : Nat) : Reads (expression n) (.chain .disjunction) (n + 1) := by
  induction n with
  | zero =>
      refine reads_disjunction ⟨?_, ?_, ?_⟩
      · intro p budget tokens rest hbudget
        exact absurd hbudget (Nat.not_lt_zero budget)
      · intro budget tokens rest e hparse
        cases hparse
      · intro budget tokens error hparse
        cases hparse
        rfl
  | succ n ih => exact reads_disjunction ih

end Parser

/-! ## Whole texts -/

theorem Phrase.exists_tokens_eq_cons {l : Level} (p : Phrase l) :
    ∃ t ts, p.tokens = t :: ts := by
  induction p with
  | number value => exact ⟨_, _, rfl⟩
  | text value => exact ⟨_, _, rfl⟩
  | word value => exact ⟨_, _, rfl⟩
  | parens inner => exact ⟨_, _, rfl⟩
  | not inner => exact ⟨_, _, rfl⟩
  | plain base ih => exact ih
  | positive inner ih => exact ih
  | single first ih => exact ih
  | length target ih =>
      obtain ⟨t, ts, h⟩ := ih
      exact ⟨t, _, by rw [tokens, h]; rfl⟩
  | includes target needle ih =>
      obtain ⟨t, ts, h⟩ := ih
      exact ⟨t, _, by rw [tokens, h]; rfl⟩
  | index target position ih =>
      obtain ⟨t, ts, h⟩ := ih
      exact ⟨t, _, by rw [tokens, h]; rfl⟩
  | link left joins right ih =>
      obtain ⟨t, ts, h⟩ := ih
      exact ⟨t, _, by rw [tokens, h]; rfl⟩

theorem parseTokens_eq {tokens : Tokens} {t : Token} {ts : List Token} {rest : Tokens}
    (h : tokens.Splits (t :: ts) rest) :
    parseTokens tokens = Parser.expression maxDepth maxDepth tokens >>= fun r =>
      match r.2 with
      | .finish _ => .ok r.1
      | rest => .error rest.unexpected := by
  obtain ⟨offset, behind, rfl, -⟩ := Tokens.splits_cons_iff.1 h
  rw [parseTokens.eq_def]
  dsimp only
  cases Parser.expression maxDepth maxDepth (Tokens.cons t offset behind) with
  | error error => rfl
  | ok r =>
      obtain ⟨e, rest⟩ := r
      cases rest <;> rfl

theorem parseTokens_complete (p : Phrase (.chain .disjunction)) {tokens : Tokens} {stop : Nat}
    (h : tokens.Splits p.tokens (.finish stop)) :
    parseTokens tokens =
      if p.nesting ≤ maxDepth then .ok p.expression else .error .tooDeep := by
  obtain ⟨t, ts, hcons⟩ := p.exists_tokens_eq_cons
  rw [parseTokens_eq (hcons ▸ h),
    (Parser.reads_expression maxDepth).complete p (Nat.lt_succ_self _) h trivial]
  by_cases hle : p.nesting ≤ maxDepth
  · rw [if_pos hle, if_pos hle]
    rfl
  · rw [if_neg hle, if_neg hle]
    rfl

theorem parseTokens_sound {tokens : Tokens} {e : Expression}
    (h : parseTokens tokens = .ok e) :
    ∃ (p : Phrase (.chain .disjunction)) (stop : Nat),
      tokens.Splits p.tokens (.finish stop) ∧ p.expression = e := by
  cases tokens with
  | finish stop => cases h
  | fault offset cause => cases h
  | cons t offset behind =>
      rw [parseTokens_eq (Tokens.Splits.cons t offset (Tokens.Splits.nil behind))] at h
      obtain ⟨⟨e', rest⟩, hparse, hrest⟩ := bind_eq_ok_iff.1 h
      obtain ⟨p, hp, rfl⟩ := (Parser.reads_expression maxDepth).sound hparse
      cases rest with
      | finish stop =>
          cases hrest
          exact ⟨p, stop, hp, rfl⟩
      | fault offset cause => cases hrest
      | cons t offset behind => cases hrest

theorem isSyntactic_parseTokens {tokens : Tokens} {error : CheckerError}
    (h : parseTokens tokens = .error error) : error.isSyntactic = true := by
  cases tokens with
  | finish stop => cases h; rfl
  | fault offset cause => cases h; rfl
  | cons t offset behind =>
      rw [parseTokens_eq (Tokens.Splits.cons t offset (Tokens.Splits.nil behind))] at h
      rcases bind_eq_error_iff.1 h with hparse | ⟨⟨e, rest⟩, _, hrest⟩
      · exact (Parser.reads_expression maxDepth).syntactic hparse
      · cases rest <;> cases hrest <;> rfl

/-- With the budget that the first derivation needs, the parser reads the sequence, so
the second one needs no more. -/
theorem Phrase.nesting_le {p q : Phrase (.chain .disjunction)} {tokens : Tokens}
    {stop stop' : Nat} (hp : tokens.Splits p.tokens (.finish stop))
    (hq : tokens.Splits q.tokens (.finish stop')) : q.nesting ≤ p.nesting := by
  have h := Parser.reads_expression p.nesting
  have hread := h.complete p (Nat.lt_succ_self _) hp trivial
  rw [h.complete q (Nat.lt_succ_self _) hq trivial, if_pos (Nat.le_refl _)] at hread
  by_cases hle : q.nesting ≤ p.nesting
  · exact hle
  · rw [if_neg hle] at hread
    cases hread

/-- A token sequence has one tree and one nesting. -/
theorem Phrase.unique {p q : Phrase (.chain .disjunction)} {tokens : Tokens} {stop stop' : Nat}
    (hp : tokens.Splits p.tokens (.finish stop)) (hq : tokens.Splits q.tokens (.finish stop')) :
    p.expression = q.expression ∧ p.nesting = q.nesting := by
  have hqp := nesting_le hp hq
  have hpq := nesting_le hq hp
  have h := Parser.reads_expression p.nesting
  have hread := h.complete p (Nat.lt_succ_self _) hp trivial
  rw [h.complete q (Nat.lt_succ_self _) hq trivial, if_pos hqp, if_pos (Nat.le_refl _)] at hread
  simp only [Except.ok.injEq, Prod.mk.injEq] at hread
  exact ⟨hread.1.symm, Nat.le_antisymm hpq hqp⟩

theorem compile_complete {source : String} (p : Phrase (.chain .disjunction))
    (h : Tokenizes 0 source.toList p.tokens) :
    compile source =
      if p.nesting ≤ maxDepth then .ok ⟨source, p.expression⟩ else .error .tooDeep := by
  obtain ⟨stop, hsplit⟩ := Tokens.splits_ofChars_iff.2 h
  rw [compile, parse, parseTokens_complete p hsplit]
  by_cases hle : p.nesting ≤ maxDepth
  · rw [if_pos hle, if_pos hle]
    rfl
  · rw [if_neg hle, if_neg hle]
    rfl

theorem compile_sound {source : String} {c : Checker} (h : compile source = .ok c) :
    ∃ p : Phrase (.chain .disjunction), Tokenizes 0 source.toList p.tokens ∧
      p.nesting ≤ maxDepth ∧ c = ⟨source, p.expression⟩ := by
  have hcompile := h
  rw [compile, parse] at h
  cases hparse : parseTokens (.ofChars source.toList) with
  | error error => simp [hparse, Except.map] at h
  | ok e =>
      obtain ⟨p, stop, hp, rfl⟩ := parseTokens_sound hparse
      have htokens := Tokens.splits_ofChars_iff.1 ⟨stop, hp⟩
      rw [compile_complete p htokens] at hcompile
      by_cases hle : p.nesting ≤ maxDepth
      · rw [if_pos hle] at hcompile
        cases hcompile
        exact ⟨p, htokens, hle, rfl⟩
      · rw [if_neg hle] at hcompile
        cases hcompile

theorem compile_eq_error_iff {source : String} {error : CheckerError} :
    compile source = .error error ↔ parseTokens (.ofChars source.toList) = .error error := by
  rw [compile, parse]
  cases parseTokens (.ofChars source.toList) with
  | error error' => simp [Except.map]
  | ok e => simp [Except.map]

theorem isSyntactic_compile {source : String} {error : CheckerError}
    (h : compile source = .error error) : error.isSyntactic = true :=
  isSyntactic_parseTokens (compile_eq_error_iff.1 h)

/-- Compiling decides the grammar. A text whose tokens derive is compiled to the
tree of the derivation if its nesting is at most 64, and is refused as too deep
otherwise; no text has two trees, or two nestings; and any other text, whether it
has no tokens or they do not derive, is refused for what it says. -/
theorem compile_decides_grammar (source : String) :
    (∀ p : Phrase (.chain .disjunction), Tokenizes 0 source.toList p.tokens →
      compile source =
        if p.nesting ≤ 64 then .ok ⟨source, p.expression⟩ else .error .tooDeep) ∧
    (∀ p q : Phrase (.chain .disjunction), Tokenizes 0 source.toList p.tokens →
      Tokenizes 0 source.toList q.tokens →
        p.expression = q.expression ∧ p.nesting = q.nesting) ∧
    ((¬∃ p : Phrase (.chain .disjunction), Tokenizes 0 source.toList p.tokens) →
      ∃ error, compile source = .error error ∧ error.isSyntactic = true) := by
  refine ⟨fun p hp => compile_complete p hp, ?_, ?_⟩
  · intro p q hp hq
    obtain ⟨stop, hp⟩ := Tokens.splits_ofChars_iff.2 hp
    obtain ⟨stop', hq⟩ := Tokens.splits_ofChars_iff.2 hq
    exact Phrase.unique hp hq
  · intro hnone
    cases hcompile : compile source with
    | error error => exact ⟨error, rfl, isSyntactic_compile hcompile⟩
    | ok c =>
        obtain ⟨p, hp, -⟩ := compile_sound hcompile
        exact absurd ⟨p, hp⟩ hnone

end SubmissionGrader.Checker
