import SubmissionGrader.Proofs.Checker.Compile
import SubmissionGrader.Proofs.Checker.Names

/-!
# The names of a checker in its text

The names of a compiled checker can be read off its tokens, without parsing them. A word is a name
unless it is one of the four that stand for values, or stands behind a point and so is a property.
Every derivation keeps its operands in the order of their tokens, so the names come in the order of
the text, each as often as it is written there: `Phrase.exists_namesBehind_append`.
-/

namespace SubmissionGrader.Checker

def valueWords : List String := ["true", "false", "null", "undefined"]

/-- The name that a token is, if the token `before` stands right in front of it. -/
def Token.name? (before : Option Token) : Token → Option String
  | .name value =>
    if before = some (.operator .point) ∨ value ∈ valueWords then none else some value
  | _ => none

/-- The names among tokens, where `before` stands in front of the first one. -/
def namesBehind (before : Option Token) (ts : List Token) : List String :=
  ((before :: ts.map some).zip ts).filterMap fun pair => pair.2.name? pair.1

def namesOfTokens (ts : List Token) : List String := namesBehind none ts

@[simp] theorem namesBehind_nil (before : Option Token) : namesBehind before [] = [] := rfl

theorem namesBehind_cons (before : Option Token) (t : Token) (ts : List Token) :
    namesBehind before (t :: ts) = (t.name? before).toList ++ namesBehind (some t) ts := by
  rw [namesBehind, List.map_cons, List.zip_cons_cons, List.filterMap_cons, ← namesBehind]
  dsimp only
  cases t.name? before <;> rfl

@[simp] theorem namesBehind_operator (before : Option Token) (op : Operator) (ts : List Token) :
    namesBehind before (.operator op :: ts) = namesBehind (some (.operator op)) ts :=
  namesBehind_cons before (.operator op) ts

theorem names_word (value : String) :
    (Parser.word value).names = if value ∈ valueWords then [] else [value] := by
  unfold Parser.word
  split
  case h_5 => simp_all [valueWords, Expression.names]
  all_goals simp [valueWords, Expression.names]

theorem ChainLevel.Joins.names_eq {level : ChainLevel} {op : Operator}
    {join : Expression → Expression → Expression} (h : level.Joins op join)
    (left right : Expression) : (join left right).names = left.names ++ right.names := by
  cases h <;> rfl

theorem ChainLevel.Joins.ne_point {level : ChainLevel} {op : Operator}
    {join : Expression → Expression → Expression} (h : level.Joins op join) : op ≠ .point := by
  cases h <;> exact Operator.noConfusion

/-- The tokens of a phrase that does not stand behind a point give the names in its tree, and the
last one of them stands in front of what follows. -/
theorem Phrase.exists_namesBehind_append {l : Level} (p : Phrase l) (before : Option Token)
    (hbefore : before ≠ some (.operator .point)) (rest : List Token) :
    ∃ last, namesBehind before (p.tokens ++ rest) =
      p.expression.names ++ namesBehind (some last) rest := by
  induction p generalizing before rest with
  | number value => exact ⟨.number value, namesBehind_cons _ _ _⟩
  | text value => exact ⟨.text value, namesBehind_cons _ _ _⟩
  | word value =>
    refine ⟨.name value, ?_⟩
    rw [tokens, List.singleton_append, namesBehind_cons, expression, names_word]
    congr 1
    by_cases h : value ∈ valueWords <;> simp [Token.name?, hbefore, h]
  | plain base ih => exact ih before hbefore rest
  | positive inner ih => exact ih before hbefore rest
  | single first ih => exact ih before hbefore rest
  | parens inner ih =>
    obtain ⟨last, hinner⟩ := ih (some (.operator .openParen)) (by simp)
      (.operator .closeParen :: rest)
    exact ⟨.operator .closeParen, by simp [tokens, expression, hinner]⟩
  | not inner ih =>
    obtain ⟨last, hinner⟩ := ih (some (.operator .not)) (by simp) rest
    exact ⟨last, by simp [tokens, expression, Expression.names, hinner]⟩
  | length target ih =>
    obtain ⟨last, htarget⟩ := ih before hbefore (.operator .point :: .name "length" :: rest)
    refine ⟨.name "length", ?_⟩
    simp [tokens, expression, Expression.names, htarget, namesBehind_cons, Token.name?]
  | includes target needle iht ihn =>
    obtain ⟨last, hneedle⟩ := ihn (some (.operator .openParen)) (by simp)
      (.operator .closeParen :: rest)
    obtain ⟨last', htarget⟩ := iht before hbefore (.operator .point :: .name "includes" ::
      .operator .openParen :: (needle.tokens ++ .operator .closeParen :: rest))
    refine ⟨.operator .closeParen, ?_⟩
    simp [tokens, expression, Expression.names, htarget, namesBehind_cons, Token.name?, hneedle]
  | index target position iht ihp =>
    obtain ⟨last, hposition⟩ := ihp (some (.operator .openBracket)) (by simp)
      (.operator .closeBracket :: rest)
    obtain ⟨last', htarget⟩ := iht before hbefore
      (.operator .openBracket :: (position.tokens ++ .operator .closeBracket :: rest))
    exact ⟨.operator .closeBracket,
      by simp [tokens, expression, Expression.names, htarget, hposition]⟩
  | @link level op join left joins right ihl ihr =>
    obtain ⟨last, hright⟩ := ihr (some (.operator op)) (by simp [joins.ne_point]) rest
    obtain ⟨last', hleft⟩ := ihl before hbefore (.operator op :: (right.tokens ++ rest))
    exact ⟨last, by simp [tokens, expression, joins.names_eq, hleft, hright]⟩

theorem Phrase.names_expression {l : Level} (p : Phrase l) :
    p.expression.names = namesOfTokens p.tokens := by
  obtain ⟨last, h⟩ := p.exists_namesBehind_append none (by simp) []
  simpa [namesOfTokens] using h.symm

/-- The names of a compiled checker are the names among the tokens of its text, in their order and
with repetitions. -/
theorem names_eq_namesOfTokens {source : String} {c : Checker} (h : compile source = .ok c) :
    ∃ ts, (∀ us, Tokenizes 0 source.toList us ↔ us = ts) ∧ c.names = namesOfTokens ts := by
  obtain ⟨p, hp, -, rfl⟩ := compile_sound h
  refine ⟨p.tokens, fun us => ⟨fun hus => hus.unique hp, ?_⟩, (names_eq _).trans p.names_expression⟩
  rintro rfl
  exact hp

theorem names_eq_namesOfTokens_of_properties :
    let source := "length.length>name[(b==true)]||xs .includes(!length)&&null"
    ∃ c, compile source = .ok c ∧ c.names = ["length", "name", "b", "xs", "length"] ∧
      ∃ ts, (∀ us, Tokenizes 0 source.toList us ↔ us = ts) ∧ c.names = namesOfTokens ts := by
  intro source
  have hnames : (compile source).toOption.map names =
      some ["length", "name", "b", "xs", "length"] := by
    decide +kernel +revert
  obtain ⟨c, hc, hnames⟩ := Option.map_eq_some_iff.1 hnames
  rw [toOption_eq_some_iff] at hc
  exact ⟨c, hc, hnames, names_eq_namesOfTokens hc⟩

end SubmissionGrader.Checker
