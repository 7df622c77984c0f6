import SubmissionGrader.Proofs.Checker.Calls
import SubmissionGrader.Proofs.Checker.Height

/-!
# Checkers as high as they can be

`Phrase.tower n` has nesting `n` and height `heightBound n`: each of its five
spines is as long as the nesting allows, and in parentheses at the end of the last
one stands the tower of nesting one less. Written with a blank in front of every
token, it is a text that compiles.
-/

namespace SubmissionGrader.Checker

namespace Phrase

/-- The word `a` as a phrase of each level. -/
def atom : (l : Level) → Phrase l
  | .primary => .word "a"
  | .suffixed => .plain (.word "a")
  | .negation => .positive (.plain (.word "a"))
  | .chain .ordering => .single (.positive (.plain (.word "a")))
  | .chain .equality => .single (.single (.positive (.plain (.word "a"))))
  | .chain .conjunction => .single (.single (.single (.positive (.plain (.word "a")))))
  | .chain .disjunction =>
    .single (.single (.single (.single (.positive (.plain (.word "a"))))))

theorem atom_spec (l : Level) :
    (atom l).nesting = 0 ∧ (atom l).expression.height = 0 ∧ (atom l).tokens = [.name "a"] := by
  match l with
  | .primary => exact ⟨rfl, rfl, rfl⟩
  | .suffixed => exact ⟨rfl, rfl, rfl⟩
  | .negation => exact ⟨rfl, rfl, rfl⟩
  | .chain .ordering => exact ⟨rfl, rfl, rfl⟩
  | .chain .equality => exact ⟨rfl, rfl, rfl⟩
  | .chain .conjunction => exact ⟨rfl, rfl, rfl⟩
  | .chain .disjunction => exact ⟨rfl, rfl, rfl⟩

/-- A phrase with `n` times `.length` behind it. -/
def lengths (target : Phrase .suffixed) : Nat → Phrase .suffixed
  | 0 => target
  | n + 1 => .length (lengths target n)

/-- A chain with `n` links, all of whose operands but the first are atoms. -/
def linked {level : ChainLevel} {op : Operator} {join : Expression → Expression → Expression}
    (joins : level.Joins op join) (first : Phrase level.operand) :
    Nat → Phrase (.chain level)
  | 0 => .single first
  | n + 1 => .link (linked joins first n) joins (atom level.operand)

/-- The phrase of nesting `n` that is as high as possible. -/
def tower : Nat → Phrase (.chain .disjunction)
  | 0 => atom _
  | n + 1 =>
    linked .or (linked .and (linked .equal (linked .less (.positive
      (lengths (.plain (.parens (tower n))) (n + 1))) (n + 1)) (n + 1)) (n + 1)) (n + 1)

/-- The phrase has the given nesting and its tree the given height. -/
structure Measures {l : Level} (p : Phrase l) (nesting height : Nat) : Prop where
  nesting_eq : p.nesting = nesting
  height_eq : p.expression.height = height

theorem measures_lengths {target : Phrase .suffixed} {nesting height : Nat}
    (h : target.Measures nesting height) (hlinks : target.links = 0) :
    ∀ n ≤ nesting, (lengths target n).Measures nesting (height + n) ∧
      (lengths target n).links = n := by
  intro n hn
  induction n with
  | zero => exact ⟨h, hlinks⟩
  | succ n ih =>
      obtain ⟨⟨hnesting, hheight⟩, hlinks⟩ := ih (by omega)
      refine ⟨⟨?_, ?_⟩, ?_⟩
      · rw [lengths, Phrase.nesting, hnesting, hlinks]
        omega
      · rw [lengths, expression, Expression.height, hheight]
        omega
      · rw [lengths, links, hlinks]

theorem measures_linked {level : ChainLevel} {op : Operator}
    {join : Expression → Expression → Expression} (joins : level.Joins op join)
    {first : Phrase level.operand} {nesting height : Nat} (h : first.Measures nesting height) :
    ∀ n ≤ nesting, (linked joins first n).Measures nesting (height + n) ∧
      (linked joins first n).links = n := by
  intro n hn
  induction n with
  | zero => exact ⟨⟨h.nesting_eq, h.height_eq⟩, rfl⟩
  | succ n ih =>
      obtain ⟨⟨hnesting, hheight⟩, hlinks⟩ := ih (by omega)
      obtain ⟨hatomNesting, hatomHeight, -⟩ := atom_spec level.operand
      refine ⟨⟨?_, ?_⟩, ?_⟩
      · rw [linked, Phrase.nesting, hnesting, hlinks, hatomNesting]
        omega
      · rw [linked, expression, joins.height_eq, hheight, hatomHeight]
        omega
      · rw [linked, links, hlinks]

theorem measures_tower (n : Nat) : (tower n).Measures n (heightBound n) := by
  induction n with
  | zero => exact ⟨rfl, rfl⟩
  | succ n ih =>
      have hbase : (Phrase.plain (.parens (tower n))).Measures (n + 1) (heightBound n) :=
        ⟨by rw [Phrase.nesting, Phrase.nesting, ih.nesting_eq, Nat.add_comm], ih.height_eq⟩
      obtain ⟨⟨hnesting, hheight⟩, -⟩ := measures_lengths hbase rfl (n + 1) (Nat.le_refl _)
      have hnegation : (Phrase.positive
          (lengths (.plain (.parens (tower n))) (n + 1))).Measures (n + 1)
            (heightBound n + (n + 1)) := ⟨hnesting, hheight⟩
      have hordering := (measures_linked .less hnegation (n + 1) (Nat.le_refl _)).1
      have hequality := (measures_linked .equal hordering (n + 1) (Nat.le_refl _)).1
      have hconjunction := (measures_linked .and hequality (n + 1) (Nat.le_refl _)).1
      have hdisjunction := (measures_linked .or hconjunction (n + 1) (Nat.le_refl _)).1
      refine ⟨hdisjunction.nesting_eq, ?_⟩
      rw [tower, hdisjunction.height_eq, heightBound]
      omega

end Phrase

/-! ## The text of a tower -/

inductive Token.IsPlain : Token → Prop
  | atom : IsPlain (.name "a")
  | length : IsPlain (.name "length")
  | operator (op : Operator) : IsPlain (.operator op)

def spaced (ts : List Token) : List Char :=
  ts.flatMap fun t => ' ' :: t.shown.toList

theorem Token.IsPlain.isWritten {t : Token} (h : t.IsPlain) : t.IsWritten t.shown.toList := by
  cases h with
  | atom => exact .name rfl (List.all_eq_true.1 rfl)
  | length => exact .name rfl (List.all_eq_true.1 rfl)
  | operator op => exact .operator op

theorem nextLexeme_spaced {t : Token} (h : t.IsPlain) (offset : Nat) (ts : List Token) :
    ∃ start stop, nextLexeme offset (spaced (t :: ts)) = .token t start stop (spaced ts) := by
  have hstop : ∀ c ∈ (spaced ts).head?, t.isExtendedBy c = false := by
    cases ts with
    | nil => exact nofun
    | cons u ts =>
      rintro c ⟨⟩
      exact t.isExtendedBy_of_isBlank rfl
  exact ⟨_, _, nextLexeme_eq_token_iff.2
    ⟨[' '], t.shown.toList, rfl, List.all_eq_true.1 rfl, rfl, rfl, h.isWritten, hstop⟩⟩

theorem tokenizes_spaced {ts : List Token} (h : ∀ t ∈ ts, t.IsPlain) (offset : Nat) :
    Tokenizes offset (spaced ts) ts := by
  induction ts generalizing offset with
  | nil => exact Tokenizes.finish rfl
  | cons t ts ih =>
      obtain ⟨start, stop, hnext⟩ := nextLexeme_spaced (h t (by simp)) offset ts
      exact Tokenizes.token hnext (ih (fun u hu => h u (by simp [hu])) stop)

namespace Phrase

theorem isPlain_lengths {target : Phrase .suffixed} (h : ∀ t ∈ target.tokens, t.IsPlain)
    (n : Nat) : ∀ t ∈ (lengths target n).tokens, t.IsPlain := by
  induction n with
  | zero => exact h
  | succ n ih =>
      intro t ht
      simp only [lengths, tokens, List.mem_append, List.mem_cons, List.not_mem_nil, or_false] at ht
      rcases ht with ht | rfl | rfl
      · exact ih t ht
      · exact .operator .point
      · exact .length

theorem isPlain_linked {level : ChainLevel} {op : Operator}
    {join : Expression → Expression → Expression} (joins : level.Joins op join)
    {first : Phrase level.operand} (h : ∀ t ∈ first.tokens, t.IsPlain) (n : Nat) :
    ∀ t ∈ (linked joins first n).tokens, t.IsPlain := by
  induction n with
  | zero => exact h
  | succ n ih =>
      intro t ht
      simp only [linked, tokens, (atom_spec level.operand).2.2, List.mem_append,
        List.mem_singleton] at ht
      rcases ht with ht | rfl | rfl
      · exact ih t ht
      · exact .operator op
      · exact .atom

theorem isPlain_tower (n : Nat) : ∀ t ∈ (tower n).tokens, t.IsPlain := by
  induction n with
  | zero =>
      intro t ht
      rw [tower, (atom_spec _).2.2, List.mem_singleton] at ht
      exact ht ▸ .atom
  | succ n ih =>
      have hparens : ∀ t ∈ (Phrase.plain (.parens (tower n))).tokens, t.IsPlain := by
        intro t ht
        rw [tokens, tokens, List.mem_append, List.mem_append, List.mem_singleton,
          List.mem_singleton] at ht
        rcases ht with (rfl | ht) | rfl
        · exact .operator .openParen
        · exact ih t ht
        · exact .operator .closeParen
      have hnegation : ∀ t ∈ (Phrase.positive
          (lengths (.plain (.parens (tower n))) (n + 1))).tokens, t.IsPlain :=
        isPlain_lengths hparens (n + 1)
      have hordering := isPlain_linked .less hnegation (n + 1)
      have hequality := isPlain_linked .equal hordering (n + 1)
      have hconjunction := isPlain_linked .and hequality (n + 1)
      exact isPlain_linked .or hconjunction (n + 1)

end Phrase

/-- The bound on the height is reached at every nesting that the limit admits. -/
theorem exists_height_eq {n : Nat} (h : n ≤ maxDepth) :
    ∃ source c, compile source = .ok c ∧ c.expression.height = heightBound n := by
  have hmeasures := Phrase.measures_tower n
  have hnesting : (Phrase.tower n).nesting ≤ maxDepth := by rwa [hmeasures.nesting_eq]
  have htokens : Tokenizes 0 (String.ofList (spaced (Phrase.tower n).tokens)).toList
      (Phrase.tower n).tokens := by
    rw [String.toList_ofList]
    exact tokenizes_spaced (Phrase.isPlain_tower n) 0
  have hcompile := compile_complete (Phrase.tower n) htokens
  rw [if_pos hnesting] at hcompile
  exact ⟨_, _, hcompile, hmeasures.height_eq⟩

/-! ## What the limit on nesting is worth -/

/-- The operands of a chain are limited by the links in front of them, so a text meets
a limit of 64 on the height, and with it one of 65 nested calls on the evaluation,
exactly if its derivation also piles up no more than 64 operators, which are the links
behind. Whatever compiles has a height of at most 10400, and that is reached. -/
theorem height_le_limit_iff (source : String) :
    ((∀ c, compile source = .ok c → c.expression.height ≤ 64 ∧
        ∀ context, c.expression.evalWithin context 65 = some (c.expression.eval context)) ↔
      ∀ p : Phrase (.chain .disjunction), Tokenizes 0 source.toList p.tokens →
        p.nesting ≤ 64 → p.pile 0 ≤ 64) ∧
    (∀ c, compile source = .ok c → c.expression.height ≤ 10400 ∧
      ∀ context, c.expression.evalWithin context 10401 = some (c.expression.eval context)) ∧
    ∃ highest c, compile highest = .ok c ∧ c.expression.height = 10400 := by
  refine ⟨⟨?_, ?_⟩, ?_, exists_height_eq (Nat.le_refl maxDepth)⟩
  · intro h p hp hnesting
    have hcompile : compile source = .ok ⟨source, p.expression⟩ := by
      rw [compile_complete p hp]
      exact if_pos hnesting
    have hheight := (h _ hcompile).1
    rw [p.pile_eq, Nat.zero_add]
    exact hheight
  · intro h c hcompile
    obtain ⟨p, hp, hnesting, rfl⟩ := compile_sound hcompile
    have hpile := h p hp hnesting
    rw [p.pile_eq, Nat.zero_add] at hpile
    exact ⟨hpile, fun context => Expression.evalWithin_eq_eval context (Nat.lt_succ_of_le hpile)⟩
  · intro c hcompile
    obtain ⟨p, -, hnesting, rfl⟩ := compile_sound hcompile
    have hheight := Phrase.height_le hnesting
    exact ⟨hheight,
      fun context => Expression.evalWithin_eq_eval context (Nat.lt_succ_of_le hheight)⟩

/-- The expression behind a number of exclamation marks. -/
def negations (operand : Expression) : Nat → Expression
  | 0 => operand
  | n + 1 => .not (negations operand n)

/-- A chain can be entered with all 64 levels used up by its first operand, and its
link comes on top of them. -/
theorem height_negations_and_gt_limit :
    (compile "!!!!!!!!!!!!!!!!!!!!!!!!!!!!!!!!!!!!!!!!!!!!!!!!!!!!!!!!!!!!!!!!a && b").map
        Checker.expression = .ok (.and (negations (.name "a") 64) (.name "b")) ∧
      (Expression.and (negations (.name "a") 64) (.name "b")).height = 65 ∧
      ∀ context, (Expression.and (negations (.name "a") 64) (.name "b")).evalWithin context 65
        = none := by
  refine ⟨toOption_eq_some_iff.1 ?_, rfl, fun context => rfl⟩
  decide +kernel

end SubmissionGrader.Checker
