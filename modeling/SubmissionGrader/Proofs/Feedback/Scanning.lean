import SubmissionGrader.Feedback.Validation
import SubmissionGrader.Proofs.Feedback.Brackets
import SubmissionGrader.Proofs.Outcome
import SubmissionGrader.Proofs.Syntax.Tokens

/-!
# The check of brackets beside the grammar

The scan for brackets has its own idea of strings, templates and comments. Piece by piece it sees
what the grammar sees: nothing in trivia (`visible_trivia`) and in literals (`visible_literal`), and
the brackets of all other tokens (`visible_plain`), as long as the pieces are of the form that the
scan knows. The brackets of such a source are those of its tokens (`visible_eq_flatMap_tokens`), and
the grammar pairs them within each construct.
-/

namespace SubmissionGrader.Feedback

open Syntax (Concrete)

/-! ## Pieces of a source -/

def opensLiteral (c : Char) : Bool := c == '\x22' || c == '\x27' || c == '\x60'

/-- Whether a slash in front of the character begins a comment. -/
def makesComment (next : Option Char) : Bool := next == some '/' || next == some '*'

/-- Comments, and text around them without quotes and brackets, from within a span of the scan on. A
line comment ends with its line feed, or with the piece if the piece is the last one. -/
def isTrivia (isLast : Bool) : Span → List Char → Bool
  | .code, [] => true
  | .code, '/' :: '/' :: rest => isTrivia isLast .line rest
  | .code, '/' :: '*' :: rest => isTrivia isLast .block rest
  | .code, c :: rest =>
    !opensLiteral c && !isBracket c && (c != '/' || !rest.isEmpty) && isTrivia isLast .code rest
  | .line, [] => isLast
  | .line, c :: rest => if c == '\n' then isTrivia isLast .code rest else isTrivia isLast .line rest
  | .block, '*' :: '/' :: rest => isTrivia isLast .code rest
  | .block, _ :: rest => isTrivia isLast .block rest
  | _, _ => false

/-- The scan comes to the end of a string or template at the last character, not before. -/
def closes : Span → List Char → Bool
  | .quoted quote, '\\' :: _ :: rest => closes (.quoted quote) rest
  | .quoted quote, c :: rest =>
    c != '\\' && if c == quote then rest.isEmpty else c != '\n' && closes (.quoted quote) rest
  | .template, '\\' :: _ :: rest => closes .template rest
  | .template, c :: rest =>
    c != '\\' && if c == '\x60' then rest.isEmpty else closes .template rest
  | _, _ => false

/-- A string or a template that the scan passes over as a whole. -/
def isLiteralText : List Char → Bool
  | [] => false
  | c :: rest =>
    if c == '\x22' || c == '\x27' then closes (.quoted c) rest
    else c == '\x60' && closes .template rest

/-- Text without quotes, backticks and beginnings of comments, in front of the given character. -/
def isPlain (next : Option Char) : List Char → Bool
  | [] => true
  | c :: rest =>
    !opensLiteral c && !(c == '/' && makesComment (rest.head?.or next)) && isPlain next rest

theorem visible_code_cons {c : Char} {rest : List Char}
    (h : c = '/' → makesComment rest.head? = false) :
    visible .code (c :: rest) =
      if c == '\x22' || c == '\x27' then visible (.quoted c) rest
      else if c == '\x60' then visible .template rest
      else if isBracket c then c :: visible .code rest
      else visible .code rest := by
  rw [visible.eq_4]
  · rintro rest rfl rfl
    cases h rfl
  · rintro rest rfl rfl
    cases h rfl

theorem visible_code_of_not_opensLiteral {c : Char} {rest : List Char}
    (hliteral : opensLiteral c = false) (h : c = '/' → makesComment rest.head? = false) :
    visible .code (c :: rest) =
      if isBracket c then c :: visible .code rest else visible .code rest := by
  obtain ⟨hquotes, hbacktick⟩ := Bool.or_eq_false_iff.1 hliteral
  rw [visible_code_cons h, hquotes, hbacktick]
  rfl

theorem visible_quoted_cons {quote c : Char} (hc : c ≠ '\\') (rest : List Char) :
    visible (.quoted quote) (c :: rest) =
      if c == '\n' || c == quote then visible .code rest else visible (.quoted quote) rest := by
  rw [visible.eq_7]
  · exact fun heq _ => hc heq
  · exact fun _ _ heq _ => hc heq

theorem visible_template_cons {c : Char} (hc : c ≠ '\\') (rest : List Char) :
    visible .template (c :: rest) =
      if c == '\x60' then visible .code rest else visible .template rest := by
  rw [visible.eq_10]
  · exact fun heq _ => hc heq
  · exact fun _ _ heq _ => hc heq

/-- In trivia the scan sees nothing, and it is back in code behind them. -/
theorem visible_trivia {isLast : Bool} {span : Span} {cs rest : List Char}
    (h : isTrivia isLast span cs = true) (hlast : isLast = true → rest = []) :
    visible span (cs ++ rest) = visible .code rest := by
  fun_induction isTrivia isLast span cs with
  | case1 => rfl
  | case2 behind ih => exact ih h
  | case3 behind ih => exact ih h
  | case4 c behind hline hblock ih =>
    simp only [Bool.and_eq_true, Bool.not_eq_true', Bool.or_eq_true, bne_iff_ne] at h
    obtain ⟨⟨⟨hliteral, hbracket⟩, hslash⟩, hbehind⟩ := h
    -- A slash is not the last character, so what makes it a comment stands in the trivia.
    have hcomment : c = '/' → makesComment (behind ++ rest).head? = false := by
      rintro rfl
      cases behind with
      | nil => simp at hslash
      | cons d behind =>
        have hd : d ≠ '/' ∧ d ≠ '*' :=
          ⟨fun heq => hline behind rfl (by rw [heq]), fun heq => hblock behind rfl (by rw [heq])⟩
        simp [makesComment, hd]
    rw [List.cons_append, visible_code_of_not_opensLiteral hliteral hcomment, hbracket, ih hbehind]
    rfl
  | case5 =>
    rw [hlast h]
    rfl
  | case6 c behind hc ih => rw [List.cons_append, visible, if_pos hc, ih h]
  | case7 c behind hc ih => rw [List.cons_append, visible, if_neg hc, ih h]
  | case8 behind ih => exact ih h
  | case9 c behind hend ih =>
    rw [List.cons_append, visible.eq_13, ih h]
    rintro more rfl heq
    cases behind with
    | nil => cases h
    | cons d behind =>
      cases heq
      exact hend behind rfl rfl
  | case10 => cases h

theorem visible_closes {span : Span} {cs : List Char} (h : closes span cs = true)
    (rest : List Char) : visible span (cs ++ rest) = visible .code rest := by
  fun_induction closes span cs with
  | case1 quote c behind ih => exact ih h
  | case2 quote c behind hesc ih =>
    simp only [Bool.and_eq_true, bne_iff_ne, ne_eq] at h
    rw [List.cons_append, visible_quoted_cons h.1]
    split at h
    next hquote =>
      rw [List.isEmpty_iff.1 h.2]
      simp [hquote]
    next hquote =>
      simp only [Bool.and_eq_true, bne_iff_ne, ne_eq] at h
      rw [ih h.2.2]
      simp [hquote, h.2.1]
  | case3 c behind ih => exact ih h
  | case4 c behind hesc ih =>
    simp only [Bool.and_eq_true, bne_iff_ne, ne_eq] at h
    rw [List.cons_append, visible_template_cons h.1]
    split at h
    next hend =>
      rw [List.isEmpty_iff.1 h.2]
      simp [hend]
    next hend =>
      rw [ih h.2]
      simp [hend]
  | case5 => cases h

/-- In a literal the scan sees nothing, and it is back in code behind it. -/
theorem visible_literal {cs : List Char} (h : isLiteralText cs = true) (rest : List Char) :
    visible .code (cs ++ rest) = visible .code rest := by
  cases cs with
  | nil => cases h
  | cons c cs =>
    rw [isLiteralText] at h
    split at h
    next hquote =>
      have hslash : c ≠ '/' := by
        rintro rfl
        simp at hquote
      rw [List.cons_append, visible_code_cons fun heq => absurd heq hslash, if_pos hquote,
        visible_closes h]
    next hquote =>
      obtain ⟨hbacktick, hcloses⟩ := Bool.and_eq_true_iff.1 h
      have hslash : c ≠ '/' := by
        rintro rfl
        simp at hbacktick
      rw [List.cons_append, visible_code_cons fun heq => absurd heq hslash, if_neg hquote,
        if_pos hbacktick, visible_closes hcloses]

/-- Of plain text the scan sees the brackets. -/
theorem visible_plain {cs rest : List Char} (h : isPlain rest.head? cs = true) :
    visible .code (cs ++ rest) = cs.filter isBracket ++ visible .code rest := by
  induction cs with
  | nil => rfl
  | cons c cs ih =>
    simp only [isPlain, Bool.and_eq_true, Bool.not_eq_true', ← List.head?_append] at h
    obtain ⟨⟨hliteral, hcomment⟩, hbehind⟩ := h
    have hslash : c = '/' → makesComment (cs ++ rest).head? = false := by
      rintro rfl
      simpa using hcomment
    rw [List.cons_append, visible_code_of_not_opensLiteral hliteral hslash, ih hbehind,
      List.filter_cons]
    split <;> rfl

/-! ## Tokens and gaps -/

section Tokens

variable (source : List Char)

/-- The brackets that the scan sees of a token. -/
def tokenBrackets (t : Concrete) : List Char :=
  if t.isLiteral then [] else (t.text source).toList.filter isBracket

/-- The character behind a token. -/
def characterBehind? (t : Concrete) : Option Char :=
  (Syntax.suffixFrom source t.span.stop).bind List.head?

/-- A token of the form that the scan knows: a literal that it passes over, or plain text. Brackets
without a partner are punctuation of the grammar. -/
def isKnownToken (t : Concrete) : Bool :=
  let text := (t.text source).toList
  if t.isLiteral then isLiteralText text
  else isPlain (characterBehind? source t) text &&
    (!t.isNamed || isBalanced (text.filter isBracket))

/-- A gap of the form that the scan knows. -/
def isKnownGap (gap : Syntax.Span) : Bool :=
  isTrivia (gap.stop == Text.byteCount source) .code (gap.text source).toList

/-- Whether all pieces of a source are of a form that the scan knows. -/
def isScannable (root : Concrete) : Bool :=
  (Concrete.tokensOf root.children).all (isKnownToken source) &&
    (root.gaps source).all (isKnownGap source)

def ownBrackets (ts : List Concrete) : List Char :=
  (ts.filter (!·.isNamed)).flatMap (tokenBrackets source)

mutual

/-- Whether each bracket of a construct has its partner in the same construct. -/
def isPaired : Concrete → Bool
  | .node head children =>
    Syntax.Lowering.isSkipped (.node head children) || (Concrete.node head children).isToken ||
      (isBalanced (ownBrackets source children) && arePaired children)

def arePaired : List Concrete → Bool
  | [] => true
  | t :: rest => isPaired t && arePaired rest

end

/-- Whether the brackets of a tree are paired, construct by construct. -/
def pairsBrackets (root : Concrete) : Bool :=
  isBalanced (ownBrackets source root.children) && arePaired source root.children

end Tokens

variable {source : List Char}

theorem arePaired_iff {ts : List Concrete} :
    arePaired source ts = true ↔ ∀ t ∈ ts, isPaired source t = true := by
  induction ts with
  | nil => simp [arePaired]
  | cons t rest ih => simp [arePaired, ih]

theorem visible_gap {gap : Syntax.Span} {cs : List Char} (hwithin : gap.isWithin source = true)
    (hknown : isKnownGap source gap = true)
    (hcs : Syntax.suffixFrom source gap.start = some cs) :
    ∃ behind, Syntax.suffixFrom source gap.stop = some behind ∧
      visible .code cs = visible .code behind := by
  obtain ⟨behind, rfl, hbehind⟩ := Syntax.Span.suffixFrom_start hwithin hcs
  refine ⟨behind, hbehind, visible_trivia hknown fun hlast => ?_⟩
  rw [beq_iff_eq.1 hlast, Syntax.suffixFrom_byteCount] at hbehind
  exact (Option.some.inj hbehind).symm

theorem visible_token {t : Concrete} {cs : List Char} (hwithin : t.span.isWithin source = true)
    (hknown : isKnownToken source t = true)
    (hcs : Syntax.suffixFrom source t.span.start = some cs) :
    ∃ behind, Syntax.suffixFrom source t.span.stop = some behind ∧
      visible .code cs = tokenBrackets source t ++ visible .code behind := by
  obtain ⟨behind, rfl, hbehind⟩ := Syntax.Span.suffixFrom_start hwithin hcs
  refine ⟨behind, hbehind, ?_⟩
  rw [isKnownToken] at hknown
  rw [tokenBrackets]
  split at hknown
  next hliteral =>
    rw [if_pos hliteral]
    exact visible_literal hknown behind
  next hliteral =>
    rw [if_neg hliteral]
    have hplain := (Bool.and_eq_true_iff.1 hknown).1
    rw [characterBehind?, hbehind, Option.bind_some] at hplain
    exact visible_plain hplain

/-- What the scan sees behind an offset are the brackets of the tokens behind it. -/
theorem visible_eq_flatMap {ts : List Concrete} {offset : Nat} {cs : List Char}
    (hcs : Syntax.suffixFrom source offset = some cs)
    (htokens : ∀ t ∈ ts, t.span.isWithin source = true ∧ isKnownToken source t = true)
    (hgaps : ∀ gap ∈ Concrete.gapsFrom (Text.byteCount source) offset ts,
      gap.isWithin source = true ∧ isKnownGap source gap = true) :
    visible .code cs = ts.flatMap (tokenBrackets source) := by
  -- Each piece ends where the next one begins, so the offset moves along with the tokens.
  induction ts generalizing offset cs with
  | nil =>
    obtain ⟨hwithin, hknown⟩ := hgaps ⟨offset, Text.byteCount source⟩ (by simp [Concrete.gapsFrom])
    obtain ⟨behind, hbehind, hsame⟩ := visible_gap hwithin hknown hcs
    cases hbehind.symm.trans (Syntax.suffixFrom_byteCount source)
    exact hsame
  | cons t ts ih =>
    rw [Concrete.gapsFrom] at hgaps
    obtain ⟨⟨hwithin, hknown⟩, hgaps⟩ := List.forall_mem_cons.1 hgaps
    obtain ⟨⟨htoken, hform⟩, htokens⟩ := List.forall_mem_cons.1 htokens
    obtain ⟨rest, hrest, hgap⟩ := visible_gap hwithin hknown hcs
    obtain ⟨behind, hbehind, hbrackets⟩ := visible_token htoken hform hrest
    rw [hgap, hbrackets, ih hbehind htokens hgaps, List.flatMap_cons]

/-- What the scan sees of a source are the brackets of its tokens. -/
theorem visible_eq_flatMap_tokens {root : Concrete} (hlaid : root.isLaidOut source = true)
    (hscan : isScannable source root = true) :
    visible .code source = (Concrete.tokensOf root.children).flatMap (tokenBrackets source) := by
  simp only [Concrete.isLaidOut, Bool.and_eq_true, List.all_eq_true] at hlaid
  simp only [isScannable, Bool.and_eq_true, List.all_eq_true] at hscan
  have hstart : Syntax.suffixFrom source 0 = some source := by rw [Syntax.suffixFrom.eq_1]
  exact visible_eq_flatMap hstart (fun t ht => ⟨hlaid.1 t ht, hscan.1 t ht⟩)
    fun gap hgap => ⟨hlaid.2 gap hgap, hscan.2 gap hgap⟩

/-! ## Brackets of constructs -/

/-- The tokens of nodes that leave nothing open count for nothing among other nodes. -/
theorem openAfter?_flatMap_tokens {ts : List Concrete}
    (h : ∀ t ∈ ts, t.isNamed = true → ∀ stack,
      openAfter? stack (t.tokens.flatMap (tokenBrackets source)) = some stack) (stack : List Char) :
    openAfter? stack ((ts.flatMap Concrete.tokens).flatMap (tokenBrackets source)) =
      openAfter? stack (ownBrackets source ts) := by
  induction ts generalizing stack with
  | nil => rfl
  | cons t rest ih =>
    obtain ⟨hfirst, hrest⟩ := List.forall_mem_cons.1 h
    rw [List.flatMap_cons, List.flatMap_append, openAfter?_append]
    cases hnamed : t.isNamed with
    | true =>
      rw [hfirst hnamed, Option.bind_some, ih hrest, ownBrackets, ownBrackets]
      simp [hnamed]
    | false =>
      rw [Concrete.tokens_of_not_isNamed hnamed, List.flatMap_singleton, ownBrackets,
        List.filter_cons, hnamed, Bool.not_false, if_pos rfl, List.flatMap_cons, openAfter?_append]
      exact congrArg _ (funext fun opened => ih hrest opened)

theorem isPaired_eq (t : Concrete) :
    isPaired source t = (Syntax.Lowering.isSkipped t || t.isToken ||
      (isBalanced (ownBrackets source t.children) && arePaired source t.children)) := by
  cases t with
  | node head children => rw [isPaired, Concrete.children_node]

/-- Only anonymous tokens open or close anything. -/
theorem openAfter?_tokenBrackets {t : Concrete} (hnamed : t.isNamed = true)
    (hknown : isKnownToken source t = true) (stack : List Char) :
    openAfter? stack (tokenBrackets source t) = some stack := by
  rw [isKnownToken] at hknown
  rw [tokenBrackets]
  split at hknown
  next hliteral =>
    rw [if_pos hliteral]
    rfl
  next hliteral =>
    rw [if_neg hliteral]
    have hbalanced := (Bool.and_eq_true_iff.1 hknown).2
    rw [hnamed, Bool.not_true, Bool.false_or] at hbalanced
    exact openAfter?_of_isBalanced hbalanced stack

/-- The tokens of a construct leave nothing open and close nothing that was open before. -/
theorem openAfter?_tokens {t : Concrete} (hnamed : t.isNamed = true)
    (hpaired : isPaired source t = true)
    (hknown : ∀ u ∈ t.tokens, isKnownToken source u = true) (stack : List Char) :
    openAfter? stack (t.tokens.flatMap (tokenBrackets source)) = some stack := by
  induction t generalizing stack with
  | node head children ih =>
    -- The equations for tokens and pairs are about any tree, so the node is kept as a variable.
    generalize ht : Concrete.node head children = t at *
    have hchildren : t.children = children := by rw [← ht, Concrete.children_node]
    rw [isPaired_eq, hchildren] at hpaired
    rw [Concrete.tokens_eq, hchildren] at hknown ⊢
    split
    next => rfl
    next hkept =>
      rw [if_neg hkept] at hknown
      split
      next htoken =>
        rw [if_pos htoken] at hknown
        rw [List.flatMap_singleton]
        exact openAfter?_tokenBrackets hnamed (hknown t (by simp)) stack
      next hinner =>
        rw [if_neg hinner] at hknown
        simp only [hkept, hinner, Bool.false_or, Bool.and_eq_true] at hpaired
        rw [openAfter?_flatMap_tokens fun c hc hcnamed => ?_]
        · exact openAfter?_of_isBalanced hpaired.1 stack
        · refine ih c hc hcnamed (arePaired_iff.1 hpaired.2 c hc) fun u hu => ?_
          exact hknown u (List.mem_flatMap.2 ⟨c, hc, hu⟩)

/-- The check of brackets agrees with the grammar on sources whose pieces are of a form that the
scan knows: it finds no fault in an accepted source, and so the validation of a source has an error
if and only if the source is blank or refused. Of the grammar this takes that its tokens lie side by
side in the source, and that each construct pairs its own brackets. -/
theorem bracket_check_agrees {source : String} {grammar : Concrete} (limit : Nat)
    (hlaid : grammar.hasError = false → grammar.isLaidOut source.toList = true)
    (hpairs : grammar.hasError = false → pairsBrackets source.toList grammar = true)
    (hscan : ∀ tree, Syntax.parseConcrete source.toList limit grammar = .ok tree →
      isScannable source.toList grammar = true) :
    (∀ tree, Syntax.parseConcrete source.toList limit grammar = .ok tree →
      bracketFault? source = none) ∧
    ((validationOf source (Syntax.parseConcrete source.toList limit grammar)).hasErrors = true ↔
      Text.isBlankText source = true ∨
        ∃ error, Syntax.parseConcrete source.toList limit grammar = .error error) := by
  have hnone : ∀ tree, Syntax.parseConcrete source.toList limit grammar = .ok tree →
      bracketFault? source = none := by
    intro tree htree
    have haccepted : grammar.hasError = false := by
      rw [Syntax.parseConcrete] at htree
      split at htree
      next => cases htree
      next herror => simpa using herror
    have hbrackets := visible_eq_flatMap_tokens (hlaid haccepted) (hscan tree htree)
    have hknown := (Bool.and_eq_true_iff.1 (hscan tree htree)).1
    obtain ⟨hown, hpaired⟩ := Bool.and_eq_true_iff.1 (hpairs haccepted)
    rw [bracketFault?, balance_eq_none_iff, hbrackets, Concrete.tokensOf_eq_flatMap,
      openAfter?_flatMap_tokens fun t ht hnamed => ?_]
    · exact openAfter?_of_isBalanced hown []
    · refine openAfter?_tokens hnamed (arePaired_iff.1 hpaired t ht) fun u hu => ?_
      rw [Concrete.tokensOf_eq_flatMap] at hknown
      exact List.all_eq_true.1 hknown u (List.mem_flatMap.2 ⟨t, ht, hu⟩)
  refine ⟨hnone, ?_⟩
  cases hresult : Syntax.parseConcrete source.toList limit grammar with
  | error error => simp [validationOf, Validation.hasErrors]
  | ok tree =>
    simp [validationOf, Validation.hasErrors, hnone tree hresult]

/-- Brackets in a string, in a template and in a comment. -/
theorem bracket_check_agrees_literals :
    let source := "f('(', `[$\x7bx\x7d`, \x7b a: [1] \x7d); // )"
    let grammar := Concrete.ofSource source.toList
    grammar.isLaidOut source.toList = true ∧ pairsBrackets source.toList grammar = true ∧
      isScannable source.toList grammar = true ∧ bracketFault? source = none ∧
      (validate source).hasErrors = false := by
  intro source grammar
  obtain ⟨hlaid, hpairs, hscan, haccepted, hblank⟩ : grammar.isLaidOut source.toList = true ∧
      pairsBrackets source.toList grammar = true ∧ isScannable source.toList grammar = true ∧
      (Syntax.parse source).toOption.isSome = true ∧ Text.isBlankText source = false := by
    decide +kernel +revert
  obtain ⟨hnone, herrors⟩ := bracket_check_agrees Syntax.defaultMaxDepth (fun _ => hlaid)
    (fun _ => hpairs) fun _ _ => hscan
  obtain ⟨tree, htree⟩ := isSome_toOption_iff.1 haccepted
  refine ⟨hlaid, hpairs, hscan, hnone tree htree, ?_⟩
  rw [← Bool.not_eq_true]
  intro hfault
  rcases herrors.1 hfault with h | ⟨error, h⟩
  · rw [hblank] at h
    cases h
  · cases htree.symm.trans h

/-- A regular expression is no literal for the scan, so a bracket in it counts. -/
theorem bracket_check_regular_expression :
    let source := "const r = /\\(/;"
    (Syntax.parse source).toOption.isSome = true ∧
      bracketFault? source = some (.unclosed '(') ∧ Text.isBlankText source = false ∧
      (validate source).hasErrors = true := by
  decide +kernel

end SubmissionGrader.Feedback
