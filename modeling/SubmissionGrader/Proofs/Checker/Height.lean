import SubmissionGrader.Proofs.Checker.Compile

/-!
# The height of compiled checkers

Compiling bounds `Phrase.nesting`, which counts for every operand the links of its
chain in front of it. Over a leaf of the tree stand the links behind it, which
`Phrase.pile` counts. The two differ along left spines: the first operand of a
chain is read before any link of it is counted, at every level anew. So a compiled
checker can be higher than the limit. What holds is the sum of the limits of all
spines, `heightBound`, and evaluation needs as many nested calls and one more.
-/

namespace SubmissionGrader.Checker

/-! ## The operators over a leaf -/

/-- The largest number of operators over a leaf, with `above` operators over the
phrase. Every link of a chain stands over all operands in front of it, and over the
one behind it. -/
def Phrase.pile {l : Level} : Phrase l → Nat → Nat
  | number _, above => above
  | text _, above => above
  | word _, above => above
  | parens inner, above => inner.pile above
  | plain base, above => base.pile above
  | length target, above => target.pile (above + 1)
  | includes target needle, above => max (target.pile (above + 1)) (needle.pile (above + 1))
  | index target position, above => max (target.pile (above + 1)) (position.pile (above + 1))
  | positive inner, above => inner.pile above
  | not inner, above => inner.pile (above + 1)
  | single first, above => first.pile above
  | link left _ right, above => max (left.pile (above + 1)) (right.pile (above + 1))

theorem Parser.height_word (value : String) : (Parser.word value).height = 0 := by
  unfold Parser.word
  split <;> rfl

theorem ChainLevel.Joins.height_eq {level : ChainLevel} {op : Operator}
    {join : Expression → Expression → Expression} (h : level.Joins op join)
    (left right : Expression) :
    (join left right).height = max left.height right.height + 1 := by
  cases h <;> rfl

theorem Phrase.pile_eq {l : Level} (p : Phrase l) (above : Nat) :
    p.pile above = above + p.expression.height := by
  induction p generalizing above with
  | number value => rfl
  | text value => rfl
  | word value => rw [pile, expression, Parser.height_word, Nat.add_zero]
  | parens inner ih => exact ih above
  | plain base ih => exact ih above
  | length target ih =>
      rw [pile, ih, expression, Expression.height]
      omega
  | includes target needle ihtarget ihneedle =>
      rw [pile, ihtarget, ihneedle, expression, Expression.height]
      omega
  | index target position ihtarget ihposition =>
      rw [pile, ihtarget, ihposition, expression, Expression.height]
      omega
  | positive inner ih => exact ih above
  | not inner ih =>
      rw [pile, ih, expression, Expression.height]
      omega
  | single first ih => exact ih above
  | link left joins right ihleft ihright =>
      rw [pile, ihleft, ihright, expression, joins.height_eq]
      omega

/-! ## What the limit on nesting says about the height -/

/-- The spines below the one of the level itself: negations and chains that begin
with the first leaf of a phrase. -/
def Level.spines : Level → Nat
  | .chain .disjunction => 4
  | .chain .conjunction => 3
  | .chain .equality => 2
  | .chain .ordering => 1
  | .negation => 1
  | .suffixed => 0
  | .primary => 0

/-- The height that a whole phrase of the given nesting can have. Each of its five
spines can be as long as the nesting, and parentheses at the end of the last one
can hold a phrase whose nesting is one less. -/
def heightBound : Nat → Nat
  | 0 => 0
  | nesting + 1 => heightBound nesting + 5 * (nesting + 1)

theorem heightBound_mono {m n : Nat} (h : m ≤ n) : heightBound m ≤ heightBound n := by
  induction h with
  | refl => exact Nat.le_refl _
  | step _ ih =>
      rw [heightBound]
      omega

theorem heightBound_eq (nesting : Nat) :
    heightBound nesting = 5 * nesting + heightBound (nesting - 1) := by
  cases nesting with
  | zero => rfl
  | succ nesting =>
      rw [heightBound, Nat.add_sub_cancel]
      omega

/-- The height that the spines of a phrase allow. -/
def Phrase.allowance {l : Level} (p : Phrase l) : Nat :=
  p.links + l.spines * p.nesting + heightBound (p.nesting - 1)

theorem Phrase.allowance_le (p : Phrase (.chain .disjunction)) :
    p.allowance ≤ heightBound p.nesting := by
  have hlinks := p.links_le_nesting
  rw [heightBound_eq, allowance, Level.spines]
  omega

theorem ChainLevel.spines_operand (level : ChainLevel) :
    (Level.chain level).spines = level.operand.spines + 1 ∨ level = ordering := by
  cases level with
  | ordering => exact Or.inr rfl
  | _ => exact Or.inl rfl

theorem Phrase.links_negation : ∀ p : Phrase .negation, p.links = 0
  | .positive _ => rfl
  | .not _ => rfl

/-- As an operand, a phrase has one more spine over its own. -/
theorem Phrase.allowance_operand_le {level : ChainLevel} (p : Phrase level.operand) :
    p.allowance ≤
      (Level.chain level).spines * p.nesting + heightBound (p.nesting - 1) := by
  have hlinks := p.links_le_nesting
  rw [allowance]
  rcases level.spines_operand with hspines | rfl
  · rw [hspines, Nat.succ_mul]
    omega
  · have hzero : p.links = 0 := links_negation p
    have hspines : ChainLevel.ordering.operand.spines = (Level.chain .ordering).spines := rfl
    rw [hzero, hspines]
    omega

/-- A suffix with a whole phrase in brackets is one link more, and what is in the
brackets has one level of nesting less. -/
theorem Phrase.height_brackets_le {target p : Phrase .suffixed}
    {inner : Phrase (.chain .disjunction)} (hlinks : p.links = target.links + 1)
    (hnesting : p.nesting = max target.nesting (target.links + 1 + (1 + inner.nesting)))
    (htarget : target.expression.height ≤ target.allowance)
    (hinner : inner.expression.height ≤ inner.allowance) :
    max target.expression.height inner.expression.height + 1 ≤ p.allowance := by
  have hwhole := inner.allowance_le
  have hmono : heightBound (target.nesting - 1) ≤ heightBound (p.nesting - 1) :=
    heightBound_mono (by omega)
  have hmono' : heightBound inner.nesting ≤ heightBound (p.nesting - 1) :=
    heightBound_mono (by omega)
  simp only [allowance, Level.spines] at htarget ⊢
  omega

theorem Phrase.height_le_allowance {l : Level} (p : Phrase l) :
    p.expression.height ≤ p.allowance := by
  induction p with
  | number value => exact Nat.zero_le _
  | text value => exact Nat.zero_le _
  | word value =>
      rw [expression, Parser.height_word]
      exact Nat.zero_le _
  | parens inner ih =>
      have hinner := inner.allowance_le
      simp only [expression, allowance, links, nesting, Level.spines, Nat.add_sub_cancel_left]
      omega
  | plain base ih =>
      have hlinks : base.links ≤ 0 := by cases base <;> exact Nat.zero_le 0
      simp only [expression, allowance, links, nesting, Level.spines] at ih ⊢
      omega
  | length target ih =>
      have hmono : heightBound (target.nesting - 1) ≤
          heightBound ((Phrase.length target).nesting - 1) :=
        heightBound_mono (by simp only [nesting]; omega)
      simp only [expression, Expression.height, allowance, links, Level.spines] at ih ⊢
      omega
  | includes target needle ihtarget ihneedle =>
      exact height_brackets_le rfl rfl ihtarget ihneedle
  | index target position ihtarget ihposition =>
      exact height_brackets_le rfl rfl ihtarget ihposition
  | positive inner ih =>
      have hlinks := inner.links_le_nesting
      simp only [expression, allowance, links, nesting, Level.spines] at ih ⊢
      omega
  | not inner ih =>
      have hzero := inner.links_negation
      have hmono : heightBound (inner.nesting - 1) ≤ heightBound (1 + inner.nesting - 1) :=
        heightBound_mono (by omega)
      simp only [expression, Expression.height, allowance, links, nesting, Level.spines] at ih ⊢
      omega
  | single first ih =>
      have hfirst := first.allowance_operand_le
      simp only [expression, allowance, links, nesting] at hfirst ih ⊢
      omega
  | @link level _ _ left joins right ihleft ihright =>
      have hright := right.allowance_operand_le
      have hl : left.nesting ≤ (left.link joins right).nesting := by
        simp only [nesting]
        omega
      have hr : right.nesting ≤ (left.link joins right).nesting := by
        simp only [nesting]
        omega
      -- The chain has one link more than its left part, and all other terms only grow.
      have hleftBound := heightBound_mono (Nat.sub_le_sub_right hl 1)
      have hrightBound := heightBound_mono (Nat.sub_le_sub_right hr 1)
      have hleftSpines := Nat.mul_le_mul_left (Level.chain level).spines hl
      have hrightSpines := Nat.mul_le_mul_left (Level.chain level).spines hr
      rw [allowance] at ihleft
      rw [expression, joins.height_eq, allowance, links]
      omega

/-- The height of a compiled checker is at most 10400, and that is as much as the
limit on nesting gives. -/
theorem Phrase.height_le {p : Phrase (.chain .disjunction)} (h : p.nesting ≤ maxDepth) :
    p.expression.height ≤ 10400 := by
  calc p.expression.height ≤ p.allowance := p.height_le_allowance
    _ ≤ heightBound p.nesting := p.allowance_le
    _ ≤ heightBound maxDepth := heightBound_mono h
    _ = 10400 := rfl

end SubmissionGrader.Checker
