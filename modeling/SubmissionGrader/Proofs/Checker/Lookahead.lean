import SubmissionGrader.Proofs.Checker.Grammar
import SubmissionGrader.Proofs.Checker.Tokens

/-!
# Looking one token ahead

Which operators continue a phrase of a level, when a phrase is over in front of a
token sequence, and what the parser's two primitive moves, `Tokens.advance` and
`Tokens.expect`, do on a sequence that is known to go on with given tokens.
-/

namespace SubmissionGrader.Checker

/-! ## Which operators continue a phrase -/

/-- How tightly an operator behind a phrase binds to it; zero if it never does. -/
def Operator.tightness : Operator → Nat
  | .or => 1
  | .and => 2
  | .compare comparison => if comparison.isEquality then 3 else 4
  | .point | .openBracket => 6
  | .not | .openParen | .closeParen | .closeBracket => 0

/-- The tightness that an operator needs to continue a phrase of the level. -/
def Level.rank : Level → Nat
  | .chain .disjunction => 1
  | .chain .conjunction => 2
  | .chain .equality => 3
  | .chain .ordering => 4
  | .negation => 5
  | .suffixed => 6
  | .primary => 7

/-- A phrase of the level is over in front of these tokens: they are no fault, and
do not begin with an operator that continues it. -/
def Tokens.Stops (l : Level) : Tokens → Prop
  | .fault _ _ => False
  | .cons (.operator op) _ _ => op.tightness < l.rank
  | _ => True

def ChainLevel.join? : ChainLevel → Operator → Option (Expression → Expression → Expression)
  | disjunction => Parser.joinOr?
  | conjunction => Parser.joinAnd?
  | equality => Parser.joinEquality?
  | ordering => Parser.joinOrdering?

theorem ChainLevel.join?_eq_some_iff {level : ChainLevel} {op : Operator}
    {join : Expression → Expression → Expression} :
    level.join? op = some join ↔ level.Joins op join := by
  constructor
  · intro h
    cases level <;> cases op <;> try cases h
    · exact Joins.or
    · exact Joins.and
    all_goals
      rename_i comparison
      cases comparison <;> cases h
    · exact Joins.strictlyEqual
    · exact Joins.strictlyUnequal
    · exact Joins.equal
    · exact Joins.unequal
    · exact Joins.less
    · exact Joins.atMost
    · exact Joins.greater
    · exact Joins.atLeast
  · intro h
    cases h <;> rfl

theorem ChainLevel.rank_operand (level : ChainLevel) :
    level.operand.rank = (Level.chain level).rank + 1 := by
  cases level <;> rfl

theorem ChainLevel.Joins.tightness_eq {level : ChainLevel} {op : Operator}
    {join : Expression → Expression → Expression} (h : level.Joins op join) :
    op.tightness = (Level.chain level).rank := by
  cases h <;> rfl

theorem ChainLevel.join?_eq_none {level : ChainLevel} {op : Operator}
    (h : op.tightness < (Level.chain level).rank) : level.join? op = none := by
  cases hjoin : level.join? op with
  | none => rfl
  | some join =>
      have heq := (join?_eq_some_iff.1 hjoin).tightness_eq
      omega

theorem Operator.tightness_lt_rank_primary (op : Operator) :
    op.tightness < Level.primary.rank := by
  cases op with
  | compare comparison => cases comparison <;> decide
  | _ => decide

namespace Tokens

/-- Nothing continues a primary phrase. -/
theorem stops_primary (op : Operator) (offset : Nat) (behind : Tokens) :
    (Tokens.cons (.operator op) offset behind).Stops .primary :=
  op.tightness_lt_rank_primary

theorem operator?_eq_some {tokens : Tokens} {op : Operator}
    (h : tokens.operator? = some op) :
    ∃ offset behind, tokens = .cons (.operator op) offset behind := by
  unfold operator? at h
  split at h
  next op' offset behind =>
    simp only [Option.some.injEq] at h
    subst h
    exact ⟨offset, behind, rfl⟩
  next => simp at h

/-- A phrase is over wherever a looser one is. -/
theorem Stops.tighter {l l' : Level} {rest : Tokens} (h : rest.Stops l)
    (hrank : l.rank ≤ l'.rank) : rest.Stops l' := by
  unfold Stops at h ⊢
  split at h
  · exact h
  · exact Nat.lt_of_lt_of_le h hrank
  · trivial

theorem Stops.operand {level : ChainLevel} {rest : Tokens}
    (h : rest.Stops (.chain level)) : rest.Stops level.operand :=
  h.tighter (level.rank_operand ▸ Nat.le_succ _)

theorem Stops.join?_eq_none {level : ChainLevel} {rest : Tokens}
    (h : rest.Stops (.chain level)) : rest.operator?.bind level.join? = none := by
  cases hop : rest.operator? with
  | none => rfl
  | some op =>
      obtain ⟨offset, behind, rfl⟩ := operator?_eq_some hop
      exact ChainLevel.join?_eq_none h

/-- Where a phrase is over behind the tokens `ts`, no fault comes up before them. -/
theorem advance_eq {behind rest : Tokens} {l : Level} {ts : List Token} (t : Token)
    (offset : Nat) (h : behind.Splits ts rest) (hrest : rest.Stops l) :
    (Tokens.cons t offset behind).advance = .ok behind := by
  cases h with
  | nil =>
      cases behind with
      | fault => exact hrest.elim
      | _ => rfl
  | cons t offset h => rfl

theorem expect_eq_advance (op : Operator) (offset : Nat) (behind : Tokens) :
    (Tokens.cons (.operator op) offset behind).expect op =
      (Tokens.cons (.operator op) offset behind).advance := by
  rw [expect, operator?, if_pos rfl]

theorem advance_eq_ok {t : Token} {offset : Nat} {tokens behind : Tokens}
    (h : (Tokens.cons t offset tokens).advance = .ok behind) : behind = tokens := by
  cases tokens with
  | fault => simp [advance] at h
  | _ => simpa [advance] using h.symm

theorem expect_eq_ok {tokens behind : Tokens} {op : Operator}
    (h : tokens.expect op = .ok behind) : tokens.Splits [.operator op] behind := by
  unfold expect at h
  split at h
  next hop =>
    obtain ⟨offset, rest, rfl⟩ := operator?_eq_some hop
    obtain rfl := advance_eq_ok h
    exact Splits.cons _ offset (Splits.nil _)
  next => simp at h

theorem isSyntactic_advance {tokens : Tokens} {error : CheckerError}
    (h : tokens.advance = .error error) : error.isSyntactic = true := by
  unfold advance at h
  split at h
  next => cases h; rfl
  next => simp at h
  next => simp at h

theorem isSyntactic_expect {tokens : Tokens} {op : Operator} {error : CheckerError}
    (h : tokens.expect op = .error error) : error.isSyntactic = true := by
  unfold expect at h
  split at h
  next => exact isSyntactic_advance h
  next => cases h; rfl

theorem isSyntactic_unexpected (tokens : Tokens) : tokens.unexpected.isSyntactic = true := by
  cases tokens <;> rfl

end Tokens

end SubmissionGrader.Checker
