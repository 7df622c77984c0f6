import SubmissionGrader.Checker.Parse

/-!
# The grammar of checkers

A `Phrase l` is a derivation of the stratified grammar at the level `l`:

* a chain is `operand (operator operand)*`, for `||`, `&&`, the equalities and
  the orderings, each level having the next one as its operands;
* a negation is `! negation` or a suffixed phrase;
* a suffixed phrase is a primary one with any number of `.length`,
  `.includes( … )` and `[ … ]` behind it;
* a primary phrase is a number, a text, a word or a whole phrase in parentheses.

Its index keeps the levels apart, so there are no derivations that break
precedence. Chains and suffixes grow at their right end, which makes every
operator left-associative. `Phrase.tokens` is what a derivation derives,
`Phrase.expression` the tree it stands for, and `Phrase.nesting` the measure
that the limit on nesting is about.
-/

namespace SubmissionGrader.Checker

/-- The levels of the grammar whose phrases are chains, from the loosest one on. -/
inductive ChainLevel where
  | disjunction
  | conjunction
  | equality
  | ordering
  deriving DecidableEq, Repr

/-- The levels of the grammar, from the loosest one on. -/
inductive Level where
  | chain (level : ChainLevel)
  | negation
  | suffixed
  | primary
  deriving DecidableEq, Repr

namespace ChainLevel

def operand : ChainLevel → Level
  | disjunction => .chain conjunction
  | conjunction => .chain equality
  | equality => .chain ordering
  | ordering => .negation

/-- The operator links the operands of chains of the level, and the function is
how it joins their trees. -/
inductive Joins : ChainLevel → Operator → (Expression → Expression → Expression) → Prop
  | or : Joins disjunction .or .or
  | and : Joins conjunction .and .and
  | strictlyEqual : Joins equality (.compare .strictlyEqual) (.compare .strictlyEqual)
  | strictlyUnequal : Joins equality (.compare .strictlyUnequal) (.compare .strictlyUnequal)
  | equal : Joins equality (.compare .equal) (.compare .equal)
  | unequal : Joins equality (.compare .unequal) (.compare .unequal)
  | atMost : Joins ordering (.compare .atMost) (.compare .atMost)
  | atLeast : Joins ordering (.compare .atLeast) (.compare .atLeast)
  | less : Joins ordering (.compare .less) (.compare .less)
  | greater : Joins ordering (.compare .greater) (.compare .greater)

end ChainLevel

inductive Phrase : Level → Type where
  | number (value : Binary64) : Phrase .primary
  | text (value : String) : Phrase .primary
  | word (value : String) : Phrase .primary
  | parens (inner : Phrase (.chain .disjunction)) : Phrase .primary
  | plain (base : Phrase .primary) : Phrase .suffixed
  | length (target : Phrase .suffixed) : Phrase .suffixed
  | includes (target : Phrase .suffixed) (needle : Phrase (.chain .disjunction)) :
      Phrase .suffixed
  | index (target : Phrase .suffixed) (position : Phrase (.chain .disjunction)) :
      Phrase .suffixed
  | positive (inner : Phrase .suffixed) : Phrase .negation
  | not (inner : Phrase .negation) : Phrase .negation
  | single {level : ChainLevel} (first : Phrase level.operand) : Phrase (.chain level)
  | link {level : ChainLevel} {op : Operator} {join : Expression → Expression → Expression}
      (left : Phrase (.chain level)) (joins : level.Joins op join)
      (right : Phrase level.operand) : Phrase (.chain level)

namespace Phrase

def tokens {l : Level} : Phrase l → List Token
  | number value => [.number value]
  | text value => [.text value]
  | word value => [.name value]
  | parens inner => [.operator .openParen] ++ inner.tokens ++ [.operator .closeParen]
  | plain base => base.tokens
  | length target => target.tokens ++ [.operator .point, .name "length"]
  | includes target needle =>
    target.tokens ++ ([.operator .point, .name "includes", .operator .openParen] ++
      (needle.tokens ++ [.operator .closeParen]))
  | index target position =>
    target.tokens ++ ([.operator .openBracket] ++
      (position.tokens ++ [.operator .closeBracket]))
  | positive inner => inner.tokens
  | not inner => [.operator .not] ++ inner.tokens
  | single first => first.tokens
  | @link _ op _ left _ right => left.tokens ++ ([.operator op] ++ right.tokens)

/-- The tree that the derivation stands for. Parentheses leave no node. -/
def expression {l : Level} : Phrase l → Expression
  | number value => .number value
  | text value => .text value
  | word value => Parser.word value
  | parens inner => inner.expression
  | plain base => base.expression
  | length target => .length target.expression
  | includes target needle => .includes target.expression needle.expression
  | index target position => .index target.expression position.expression
  | positive inner => inner.expression
  | not inner => .not inner.expression
  | single first => first.expression
  | @link _ _ join left _ right => join left.expression right.expression

/-- The number of links of a chain, or of suffixes behind a primary phrase. -/
def links {l : Level} : Phrase l → Nat
  | length target => target.links + 1
  | includes target _ => target.links + 1
  | index target _ => target.links + 1
  | link left _ _ => left.links + 1
  | _ => 0

/-- The nesting measure. The operand behind the `i`-th link of a chain lies `i`
levels deeper than the chain, and so does the `i`-th suffix; what a suffix has in
brackets, what parentheses hold and what is negated lies one level deeper still. -/
def nesting {l : Level} : Phrase l → Nat
  | number _ => 0
  | text _ => 0
  | word _ => 0
  | parens inner => 1 + inner.nesting
  | plain base => base.nesting
  | length target => max target.nesting (target.links + 1)
  | includes target needle => max target.nesting (target.links + 1 + (1 + needle.nesting))
  | index target position => max target.nesting (target.links + 1 + (1 + position.nesting))
  | positive inner => inner.nesting
  | not inner => 1 + inner.nesting
  | single first => first.nesting
  | link left _ right => max left.nesting (left.links + 1 + right.nesting)

theorem links_le_nesting {l : Level} (p : Phrase l) : p.links ≤ p.nesting := by
  cases p with
  | length target => exact Nat.le_max_right target.nesting (target.links + 1)
  | includes target needle => simp only [links, nesting]; omega
  | index target position => simp only [links, nesting]; omega
  | link left joins right => simp only [links, nesting]; omega
  | _ => exact Nat.zero_le _

end Phrase

end SubmissionGrader.Checker
