import SubmissionGrader.Proofs.Feedback.Scanning

/-!
# Spans of a source

A source is read from left to right as brackets, spans and other characters. A span is a string, a
template or a comment. It reaches to its end (`IsSpan`), or to the end of the source if it has none
(`IsOpenSpan`). `Visible source word` says that the brackets outside of all spans are `word`. This
is what the scan for brackets keeps (`visible_iff`).
-/

namespace SubmissionGrader.Feedback

/-- Whether a character ends the string or template that another one begins, unless it is escaped.
Strings end with their line as well. -/
def stops (opener c : Char) : Bool := c == opener || (c == '\n' && opener != '\x60')

/-- The text of a string or template: pairs of a backslash and any other character, and characters
that do not stop it. -/
inductive IsBody (opener : Char) : List Char → Prop where
  | nil : IsBody opener []
  | escape {body : List Char} (c : Char) : IsBody opener body → IsBody opener ('\\' :: c :: body)
  | plain {c : Char} {body : List Char} :
      c ≠ '\\' → stops opener c = false → IsBody opener body → IsBody opener (c :: body)

/-- The text of a span with its end. The end of a block comment is the first one behind its
beginning. -/
inductive IsSpan : List Char → Prop where
  | literal {opener stop : Char} {body : List Char} :
      opensLiteral opener = true → IsBody opener body → stops opener stop = true →
      IsSpan (opener :: (body ++ [stop]))
  | line {body : List Char} : '\n' ∉ body → IsSpan ('/' :: '/' :: (body ++ ['\n']))
  | block {body : List Char} : ¬ ['*', '/'] <:+: body → IsSpan ('/' :: '*' :: (body ++ ['*', '/']))

/-- The text of a span without an end. A backslash at the end of the source escapes nothing. -/
inductive IsOpenSpan : List Char → Prop where
  | literal {opener : Char} {body tail : List Char} :
      opensLiteral opener = true → IsBody opener body → tail = [] ∨ tail = ['\\'] →
      IsOpenSpan (opener :: (body ++ tail))
  | line {body : List Char} : '\n' ∉ body → IsOpenSpan ('/' :: '/' :: body)
  | block {body : List Char} : ¬ ['*', '/'] <:+: body → IsOpenSpan ('/' :: '*' :: body)

/-- Whether a character begins no span, in front of the given one. -/
def isOutside (c : Char) (next : Option Char) : Bool :=
  !opensLiteral c && !(c == '/' && makesComment next)

/-- The brackets of a source that stand outside of spans. -/
inductive Visible : List Char → List Char → Prop where
  | nil : Visible [] []
  | bracket {c : Char} {rest word : List Char} :
      isBracket c = true → Visible rest word → Visible (c :: rest) (c :: word)
  | other {c : Char} {rest word : List Char} :
      isBracket c = false → isOutside c rest.head? = true → Visible rest word →
      Visible (c :: rest) word
  | span {text rest word : List Char} :
      IsSpan text → Visible rest word → Visible (text ++ rest) word
  | openSpan {text : List Char} : IsOpenSpan text → Visible text []

variable {opener c : Char} {body cs rest source word : List Char}

theorem Visible.all_isBracket (h : Visible source word) : ∀ c ∈ word, isBracket c = true := by
  induction h with
  | nil => simp
  | bracket hc _ ih => exact List.forall_mem_cons.2 ⟨hc, ih⟩
  | other _ _ _ ih => exact ih
  | span _ _ ih => exact ih
  | openSpan _ => simp

/-! ## Strings and templates -/

def literalSpan (opener : Char) : Span :=
  if opener == '\x60' then .template else .quoted opener

theorem visible_code_opener (h : opensLiteral opener = true) (cs : List Char) :
    visible .code (opener :: cs) = visible (literalSpan opener) cs := by
  have hslash : opener = '/' → makesComment cs.head? = false := by
    rintro rfl
    cases h
  rw [visible_code_cons hslash, literalSpan]
  simp only [opensLiteral, Bool.or_eq_true, beq_iff_eq] at h
  obtain (rfl | rfl) | rfl := h <;> rfl

theorem visible_literalSpan_nil (opener : Char) : visible (literalSpan opener) [] = [] := by
  rw [literalSpan]
  split <;> rfl

theorem visible_literalSpan_backslash (opener : Char) :
    visible (literalSpan opener) ['\\'] = [] := by
  rw [literalSpan]
  split <;> rfl

theorem visible_literalSpan_escape (opener c : Char) (rest : List Char) :
    visible (literalSpan opener) ('\\' :: c :: rest) = visible (literalSpan opener) rest := by
  rw [literalSpan]
  split <;> rfl

theorem visible_literalSpan_cons (hc : c ≠ '\\') (rest : List Char) :
    visible (literalSpan opener) (c :: rest) =
      if stops opener c then visible .code rest else visible (literalSpan opener) rest := by
  rw [literalSpan, stops]
  split
  next h => rw [visible_template_cons hc, beq_iff_eq.1 h, bne_self_eq_false, Bool.and_false,
    Bool.or_false]
  next h => rw [visible_quoted_cons hc, bne_iff_ne.2 (mt beq_iff_eq.2 h), Bool.and_true,
    Bool.or_comm]

theorem IsBody.visible_append (h : IsBody opener body) (rest : List Char) :
    visible (literalSpan opener) (body ++ rest) = visible (literalSpan opener) rest := by
  induction h with
  | nil => rfl
  | escape c _ ih => rw [List.cons_append, List.cons_append, visible_literalSpan_escape, ih]
  | plain hc hstop _ ih =>
    rw [List.cons_append, visible_literalSpan_cons hc, hstop, if_neg Bool.false_ne_true, ih]

theorem ne_backslash_of_stops (hopener : opensLiteral opener = true)
    (h : stops opener c = true) : c ≠ '\\' := by
  rintro rfl
  simp only [opensLiteral, Bool.or_eq_true, beq_iff_eq] at hopener
  obtain (rfl | rfl) | rfl := hopener <;> cases h

/-- The text behind the beginning of a string or template up to its end, or up to the end of the
source. -/
theorem exists_isBody (opener : Char) (cs : List Char) :
    ∃ body tail, cs = body ++ tail ∧ IsBody opener body ∧
      ((tail = [] ∨ tail = ['\\']) ∨
        ∃ stop rest, tail = stop :: rest ∧ stops opener stop = true) := by
  match cs with
  | [] => exact ⟨[], [], rfl, .nil, .inl (.inl rfl)⟩
  | c :: cs =>
    by_cases hc : c = '\\'
    · subst hc
      cases cs with
      | nil => exact ⟨[], ['\\'], rfl, .nil, .inl (.inr rfl)⟩
      | cons d cs =>
        obtain ⟨body, tail, rfl, hbody, htail⟩ := exists_isBody opener cs
        exact ⟨'\\' :: d :: body, tail, rfl, .escape d hbody, htail⟩
    · cases hstop : stops opener c with
      | true => exact ⟨[], c :: cs, rfl, .nil, .inr ⟨c, cs, rfl, hstop⟩⟩
      | false =>
        obtain ⟨body, tail, rfl, hbody, htail⟩ := exists_isBody opener cs
        exact ⟨c :: body, tail, rfl, .plain hc hstop hbody, htail⟩

/-! ## Comments -/

theorem visible_line_append (h : '\n' ∉ body) (rest : List Char) :
    visible .line (body ++ rest) = visible .line rest := by
  induction body with
  | nil => rfl
  | cons c body ih =>
    have hc : ¬ (c == '\n') = true := fun heq => h (by simp [beq_iff_eq.1 heq])
    rw [List.cons_append, visible, if_neg hc, ih fun hmem => h (List.mem_cons_of_mem c hmem)]

theorem visible_block_cons (h : ¬ ['*', '/'] <+: c :: cs) :
    visible .block (c :: cs) = visible .block cs := by
  rw [visible.eq_13]
  rintro rest rfl rfl
  exact h (List.prefix_append ['*', '/'] rest)

theorem visible_block (h : ¬ ['*', '/'] <:+: body) : visible .block body = [] := by
  induction body with
  | nil => rfl
  | cons c body ih =>
    rw [List.infix_cons_iff, not_or] at h
    rw [visible_block_cons h.1, ih h.2]

theorem visible_block_append (h : ¬ ['*', '/'] <:+: body) (rest : List Char) :
    visible .block (body ++ ['*', '/'] ++ rest) = visible .code rest := by
  induction body with
  | nil => rfl
  | cons c body ih =>
    rw [List.infix_cons_iff, not_or] at h
    rw [List.cons_append, List.cons_append, visible_block_cons ?_, ih h.2]
    -- A star at the end of the text stands in front of the star that ends the comment.
    cases body with
    | nil => simp
    | cons d body => simpa using h.1

/-- The text behind the beginning of a block comment up to its end, or up to the end of the
source. -/
theorem exists_block_end (cs : List Char) :
    (¬ ['*', '/'] <:+: cs) ∨
      ∃ body rest, cs = body ++ ['*', '/'] ++ rest ∧ ¬ ['*', '/'] <:+: body := by
  induction cs with
  | nil => exact .inl (by simp)
  | cons c cs ih =>
    by_cases hfront : ['*', '/'] <+: c :: cs
    · obtain ⟨rest, hrest⟩ := hfront
      exact .inr ⟨[], rest, hrest.symm, by simp⟩
    · obtain hnone | ⟨body, rest, rfl, hbody⟩ := ih
      · left
        rw [List.infix_cons_iff]
        exact not_or.2 ⟨hfront, hnone⟩
      · refine .inr ⟨c :: body, rest, rfl, ?_⟩
        rw [List.infix_cons_iff]
        refine not_or.2 ⟨fun h => hfront (h.trans ?_), hbody⟩
        exact ⟨['*', '/'] ++ rest, by simp⟩

/-! ## Whole sources -/

theorem IsSpan.visible_append {text : List Char} (h : IsSpan text) (rest : List Char) :
    visible .code (text ++ rest) = visible .code rest := by
  cases h with
  | @literal opener stop body hopener hbody hstop =>
    rw [List.cons_append, List.append_assoc, visible_code_opener hopener, hbody.visible_append,
      List.singleton_append, visible_literalSpan_cons (ne_backslash_of_stops hopener hstop), hstop,
      if_pos rfl]
  | @line body hbody =>
    rw [List.cons_append, List.cons_append, visible.eq_2, List.append_assoc,
      visible_line_append hbody]
    rfl
  | @block body hbody => exact visible_block_append hbody rest

theorem IsOpenSpan.visible_eq_nil {text : List Char} (h : IsOpenSpan text) :
    visible .code text = [] := by
  cases h with
  | @literal opener body tail hopener hbody htail =>
    rw [visible_code_opener hopener, hbody.visible_append]
    obtain rfl | rfl := htail
    · exact visible_literalSpan_nil opener
    · exact visible_literalSpan_backslash opener
  | @line body hbody =>
    rw [visible.eq_2, ← List.append_nil body, visible_line_append hbody]
    rfl
  | @block body hbody => exact visible_block hbody

theorem visible_code_outside (h : isOutside c rest.head? = true) :
    visible .code (c :: rest) =
      if isBracket c then c :: visible .code rest else visible .code rest := by
  simp only [isOutside, Bool.and_eq_true, Bool.not_eq_true'] at h
  refine visible_code_of_not_opensLiteral h.1 ?_
  rintro rfl
  simpa using h.2

theorem isOutside_of_isBracket (h : isBracket c = true) (next : Option Char) :
    isOutside c next = true := by
  have hliteral : opensLiteral c = false := by
    rw [← Bool.not_eq_true]
    simp only [opensLiteral, Bool.or_eq_true, beq_iff_eq]
    rintro ((rfl | rfl) | rfl) <;> cases h
  have hslash : (c == '/') = false := by
    rw [beq_eq_false_iff_ne]
    rintro rfl
    cases h
  rw [isOutside, hliteral, hslash]
  rfl

theorem Visible.visible_eq (h : Visible source word) : visible .code source = word := by
  induction h with
  | nil => rfl
  | bracket hc _ ih => rw [visible_code_outside (isOutside_of_isBracket hc _), hc, if_pos rfl, ih]
  | other hc houtside _ ih => rw [visible_code_outside houtside, hc, if_neg Bool.false_ne_true, ih]
  | span htext _ ih => rw [htext.visible_append, ih]
  | openSpan htext => exact htext.visible_eq_nil

/-- Where a span begins, there is one, with an end or without. -/
theorem exists_isSpan (h : isOutside c cs.head? = false) :
    IsOpenSpan (c :: cs) ∨ ∃ text rest, c :: cs = text ++ rest ∧ IsSpan text := by
  cases hopener : opensLiteral c with
  | true =>
    obtain ⟨body, tail, rfl, hbody, hnone | ⟨stop, rest, rfl, hstop⟩⟩ := exists_isBody c cs
    · exact .inl (.literal hopener hbody hnone)
    · exact .inr ⟨c :: (body ++ [stop]), rest, by simp, .literal hopener hbody hstop⟩
  | false =>
    simp only [isOutside, hopener, makesComment, Bool.not_false, Bool.true_and, Bool.not_eq_false',
      Bool.and_eq_true, Bool.or_eq_true, beq_iff_eq, List.head?_eq_some_iff] at h
    obtain ⟨rfl, ⟨cs, rfl⟩ | ⟨cs, rfl⟩⟩ := h
    · by_cases hend : '\n' ∈ cs
      · obtain ⟨body, rest, rfl, hbody⟩ := List.eq_append_cons_of_mem hend
        exact .inr ⟨'/' :: '/' :: (body ++ ['\n']), rest, by simp, .line hbody⟩
      · exact .inl (.line hend)
    · obtain hnone | ⟨body, rest, rfl, hbody⟩ := exists_block_end cs
      · exact .inl (.block hnone)
      · exact .inr ⟨'/' :: '*' :: (body ++ ['*', '/']), rest, by simp, .block hbody⟩

theorem IsSpan.length_pos {text : List Char} (h : IsSpan text) : 0 < text.length := by
  cases h <;> simp

/-- Every source can be read as brackets, spans and other characters. -/
theorem exists_visible (source : List Char) : ∃ word, Visible source word := by
  match source with
  | [] => exact ⟨[], .nil⟩
  | c :: cs =>
    cases houtside : isOutside c cs.head? with
    | true =>
      obtain ⟨word, hword⟩ := exists_visible cs
      cases hc : isBracket c with
      | true => exact ⟨c :: word, .bracket hc hword⟩
      | false => exact ⟨word, .other hc houtside hword⟩
    | false =>
      obtain hopen | ⟨text, rest, hsource, htext⟩ := exists_isSpan houtside
      · exact ⟨[], .openSpan hopen⟩
      · -- A span is not empty, so what stands behind it is shorter than the source.
        have hshorter : rest.length < cs.length + 1 := by
          have hlength := congrArg List.length hsource
          rw [List.length_cons, List.length_append] at hlength
          have hpos := htext.length_pos
          omega
        obtain ⟨word, hword⟩ := exists_visible rest
        exact ⟨word, hsource ▸ .span htext hword⟩
termination_by source.length

theorem visible_iff : Visible source word ↔ visible .code source = word := by
  refine ⟨Visible.visible_eq, fun h => ?_⟩
  obtain ⟨other, hother⟩ := exists_visible source
  rwa [← h, hother.visible_eq]

end SubmissionGrader.Feedback
