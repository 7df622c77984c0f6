import SubmissionGrader.Proofs.Checker.Lookahead
import SubmissionGrader.Proofs.Outcome

/-!
# Loops of the parser

Links and suffixes are read by loops of one shape: as long as the next operator
has a step, the step extends the expression and uses up one level of the budget.
`loop_invariant` is the induction on such a loop for what it accepts, and
`loop_extend` the one step of the budget's account for what it has to accept.
-/

namespace SubmissionGrader.Checker.Parser

/-- Extends an expression by steps, each begun by an operator that has one. -/
def loop (step? : Operator → Option (Expression → Parser)) :
    Nat → Expression → Tokens → Except CheckerError (Expression × Tokens)
  | budget, left, tokens =>
    match tokens.operator?.bind step? with
    | none => .ok (left, tokens)
    | some step => do
      let behind ← tokens.advance
      match budget with
      | 0 => .error .tooDeep
      | budget + 1 =>
        let (next, rest) ← step left budget behind
        loop step? budget next rest

section Loop

variable {step? : Operator → Option (Expression → Parser)} {left : Expression} {tokens : Tokens}
  {step : Expression → Parser}

theorem loop_stop {budget : Nat} (h : tokens.operator?.bind step? = none) :
    loop step? budget left tokens = .ok (left, tokens) := by
  rw [loop.eq_def]
  simp only [h]

theorem loop_fault {budget : Nat} {error : CheckerError}
    (h : tokens.operator?.bind step? = some step) (hbehind : tokens.advance = .error error) :
    loop step? budget left tokens = .error error := by
  rw [loop.eq_def]
  simp only [h, hbehind, error_bind]

theorem loop_zero {behind : Tokens} (h : tokens.operator?.bind step? = some step)
    (hbehind : tokens.advance = .ok behind) :
    loop step? 0 left tokens = .error .tooDeep := by
  rw [loop.eq_def]
  simp only [h, hbehind, ok_bind]

theorem loop_succ {budget : Nat} {behind : Tokens} (h : tokens.operator?.bind step? = some step)
    (hbehind : tokens.advance = .ok behind) :
    loop step? (budget + 1) left tokens =
      step left budget behind >>= fun r => loop step? budget r.1 r.2 := by
  rw [loop.eq_def]
  simp only [h, hbehind, ok_bind]

/-- What each step of a loop preserves, the loop preserves. -/
theorem loop_invariant (holds : Expression → Tokens → Prop)
    (hstep : ∀ {op step offset behind budget e e' rest},
      holds e (.cons (.operator op) offset behind) → step? op = some step →
        step e budget behind = .ok (e', rest) → holds e' rest)
    {budget : Nat} {rest : Tokens} {e : Expression} (hleft : holds left tokens)
    (h : loop step? budget left tokens = .ok (e, rest)) : holds e rest := by
  induction budget generalizing left tokens with
  | zero =>
      cases hop : tokens.operator?.bind step? with
      | none =>
          rw [loop_stop hop] at h
          cases h
          exact hleft
      | some step =>
          cases hbehind : tokens.advance with
          | error error => simp [loop_fault hop hbehind] at h
          | ok behind => simp [loop_zero hop hbehind] at h
  | succ budget ih =>
      cases hop : tokens.operator?.bind step? with
      | none =>
          rw [loop_stop hop] at h
          cases h
          exact hleft
      | some step =>
          cases hbehind : tokens.advance with
          | error error => simp [loop_fault hop hbehind] at h
          | ok behind =>
              rw [loop_succ hop hbehind] at h
              obtain ⟨⟨next, middle⟩, hnext, h⟩ := bind_eq_ok_iff.1 h
              obtain ⟨op, hfirst, hop⟩ := Option.bind_eq_some_iff.1 hop
              obtain ⟨offset, tail, rfl⟩ := Tokens.operator?_eq_some hfirst
              obtain rfl := Tokens.advance_eq_ok hbehind
              exact ih (hstep hleft hop hnext) h

theorem isSyntactic_loop
    (hstep : ∀ {op step budget e behind error}, step? op = some step →
      step e budget behind = .error error → error.isSyntactic = true)
    {budget : Nat} {error : CheckerError}
    (h : loop step? budget left tokens = .error error) : error.isSyntactic = true := by
  induction budget generalizing left tokens with
  | zero =>
      cases hop : tokens.operator?.bind step? with
      | none => simp [loop_stop hop] at h
      | some step =>
          cases hbehind : tokens.advance with
          | error e =>
              rw [loop_fault hop hbehind] at h
              cases h
              exact Tokens.isSyntactic_advance hbehind
          | ok behind =>
              rw [loop_zero hop hbehind] at h
              cases h
              rfl
  | succ budget ih =>
      cases hop : tokens.operator?.bind step? with
      | none => simp [loop_stop hop] at h
      | some step =>
          cases hbehind : tokens.advance with
          | error e =>
              rw [loop_fault hop hbehind] at h
              cases h
              exact Tokens.isSyntactic_advance hbehind
          | ok behind =>
              rw [loop_succ hop hbehind] at h
              obtain ⟨op, _, hop⟩ := Option.bind_eq_some_iff.1 hop
              rcases bind_eq_error_iff.1 h with hnext | ⟨r, _, hrest⟩
              · exact hstep hop hnext
              · exact ih hrest

/-- One more step moves the loop on, in front of which `links` steps of nesting
`nesting` have been made. -/
theorem loop_extend {op : Operator} {offset links nesting budget : Nat}
    {behind rest : Tokens} {next : Expression} (extra : Nat) (hlinks : links ≤ nesting)
    (hop : step? op = some step)
    (hbehind : (Tokens.cons (.operator op) offset behind).advance = .ok behind)
    (hstep : ∀ b < budget, step left b behind =
      if extra ≤ b then .ok (next, rest) else .error .tooDeep) :
    (if nesting ≤ budget then
        loop step? (budget - links) left (.cons (.operator op) offset behind)
      else .error .tooDeep) =
      if max nesting (links + 1 + extra) ≤ budget then
        loop step? (budget - (links + 1)) next rest
      else .error .tooDeep := by
  have hfirst : (Tokens.cons (.operator op) offset behind).operator?.bind step? = some step := hop
  by_cases hle : nesting ≤ budget
  · rw [if_pos hle]
    cases hrest : budget - links with
    | zero => rw [loop_zero hfirst hbehind, if_neg (by omega)]
    | succ k =>
        have hk : budget - (links + 1) = k := by omega
        rw [loop_succ hfirst hbehind, hstep k (by omega), hk]
        by_cases hextra : extra ≤ k
        · rw [if_pos hextra, if_pos (by omega), ok_bind]
        · rw [if_neg hextra, if_neg (by omega), error_bind]
  · rw [if_neg hle, if_neg (by omega)]

end Loop

end SubmissionGrader.Checker.Parser
