import SubmissionGrader.Proofs.Checker.Primary

/-!
# Reading suffixes and negations

The suffixes behind a primary phrase are read by a loop whose steps are a
property and a position in brackets. Negations nest in front of them.
-/

namespace SubmissionGrader.Checker.Parser

/-! ## Suffixes -/

/-- The step of the suffixes reads a property or a position. -/
def suffixStep? (nested : Parser) : Operator → Option (Expression → Parser)
  | .point => some (property nested)
  | .openBracket => some (position nested)
  | _ => none

theorem suffixes_eq_loop (nested : Parser) (budget : Nat) (target : Expression)
    (tokens : Tokens) :
    suffixes nested budget target tokens = loop (suffixStep? nested) budget target tokens := by
  induction budget generalizing target tokens with
  | zero =>
      rw [suffixes.eq_def, loop.eq_def]
      dsimp only
      cases tokens.operator? with
      | none => rfl
      | some op => cases op <;> rfl
  | succ budget ih =>
      rw [suffixes.eq_def, loop.eq_def]
      dsimp only
      cases tokens.operator? with
      | none => rfl
      | some op => cases op <;> simp [suffixStep?, ih]

theorem suffixed_eq (nested : Parser) (budget : Nat) (tokens : Tokens) :
    suffixed nested budget tokens =
      primary nested budget tokens >>= fun r => loop (suffixStep? nested) budget r.1 r.2 := by
  rw [suffixed]
  cases primary nested budget tokens with
  | error error => rfl
  | ok r => exact suffixes_eq_loop nested budget r.1 r.2

theorem property_length {nested : Parser} {target : Expression} {budget offset : Nat}
    {behind : Tokens} (h : (Tokens.cons (.name "length") offset behind).advance = .ok behind) :
    property nested target budget (.cons (.name "length") offset behind) =
      .ok (.length target, behind) := by
  rw [property, h]
  rfl

theorem property_includes {nested : Parser} {target : Expression} {budget offset : Nat}
    {tokens behind : Tokens}
    (h : (Tokens.cons (.name "includes") offset tokens).advance = .ok tokens)
    (hparen : tokens.expect .openParen = .ok behind) :
    property nested target budget (.cons (.name "includes") offset tokens) =
      enclosed nested .closeParen budget behind >>= fun r =>
        .ok (.includes target r.1, r.2) := by
  rw [property, h, enclosed]
  simp only [ok_bind, hparen]
  cases nested.deeper budget behind with
  | error error => rfl
  | ok r =>
      simp only [ok_bind]
      cases r.2.expect .closeParen <;> rfl

theorem position_eq (nested : Parser) (target : Expression) (budget : Nat) (tokens : Tokens) :
    position nested target budget tokens =
      enclosed nested .closeBracket budget tokens >>= fun r =>
        .ok (.index target r.1, r.2) := by
  rw [position, enclosed]
  cases nested.deeper budget tokens with
  | error error => rfl
  | ok r =>
      simp only [ok_bind]
      cases r.2.expect .closeBracket <;> rfl

/-- What a property can be. -/
theorem property_sound {nested : Parser} {n : Nat} (h : Reads nested (.chain .disjunction) n)
    {target e : Expression} {budget : Nat} {tokens rest : Tokens}
    (hproperty : property nested target budget tokens = .ok (e, rest)) :
    (tokens.Splits [.name "length"] rest ∧ e = .length target) ∨
      ∃ needle : Phrase (.chain .disjunction),
        tokens.Splits ([.name "includes", .operator .openParen] ++
          (needle.tokens ++ [.operator .closeParen])) rest ∧
        e = .includes target needle.expression := by
  obtain ⟨behind, hbehind, hmatch⟩ := bind_eq_ok_iff.1 hproperty
  split at hmatch
  next offset tail =>
    obtain rfl := Tokens.advance_eq_ok hbehind
    cases hmatch
    exact Or.inl ⟨Tokens.Splits.cons _ offset (Tokens.Splits.nil _), rfl⟩
  next offset tail =>
    obtain rfl := Tokens.advance_eq_ok hbehind
    obtain ⟨middle, hparen, -⟩ := bind_eq_ok_iff.1 hmatch
    rw [property_includes hbehind hparen] at hproperty
    obtain ⟨⟨e', rest'⟩, henclosed, heq⟩ := bind_eq_ok_iff.1 hproperty
    obtain ⟨needle, hneedle, rfl⟩ := enclosed_sound h henclosed
    cases heq
    have hopen := Tokens.expect_eq_ok hparen
    exact Or.inr ⟨needle, Tokens.Splits.cons _ offset (hopen.append hneedle), rfl⟩
  next => simp at hmatch
  next => simp at hmatch

theorem isSyntactic_property {nested : Parser} {n : Nat}
    (h : Reads nested (.chain .disjunction) n) {target : Expression} {budget : Nat}
    {tokens : Tokens} {error : CheckerError}
    (hproperty : property nested target budget tokens = .error error) :
    error.isSyntactic = true := by
  rcases bind_eq_error_iff.1 hproperty with hadvance | ⟨behind, hbehind, hmatch⟩
  · exact Tokens.isSyntactic_advance hadvance
  split at hmatch
  next => cases hmatch
  next offset tail =>
    obtain rfl := Tokens.advance_eq_ok hbehind
    rcases bind_eq_error_iff.1 hmatch with hparen | ⟨middle, hparen, -⟩
    · exact Tokens.isSyntactic_expect hparen
    · rw [property_includes hbehind hparen] at hproperty
      rcases bind_eq_error_iff.1 hproperty with henclosed | ⟨r, _, heq⟩
      · exact isSyntactic_enclosed h henclosed
      · cases heq
  next => cases hmatch; rfl
  next => cases hmatch; rfl

/-- Reading a suffixed phrase comes down to going on behind it with the budget that
its suffixes leave, unless something in brackets does not get along with what is
left for it. -/
theorem suffixed_run {nested : Parser} {n : Nat} (h : Reads nested (.chain .disjunction) n) :
    ∀ (p : Phrase .suffixed) {budget : Nat} {tokens rest : Tokens}, budget < n + 1 →
      tokens.Splits p.tokens rest → rest.Stops .primary →
        suffixed nested budget tokens =
          if p.nesting ≤ budget then
            loop (suffixStep? nested) (budget - p.links) p.expression rest
          else .error .tooDeep
  | .plain base, budget, tokens, rest, hbudget, hsplit, hstop => by
      have hnesting : (Phrase.plain base).nesting = base.nesting := rfl
      rw [suffixed_eq, (reads_primary h).complete base hbudget hsplit hstop, hnesting]
      by_cases hle : base.nesting ≤ budget
      · rw [if_pos hle, if_pos hle]
        rfl
      · rw [if_neg hle, if_neg hle]
        rfl
  | .length target, budget, tokens, rest, hbudget, hsplit, hstop => by
      obtain ⟨middle, htarget, hsplit⟩ := Tokens.splits_append_iff.1 hsplit
      obtain ⟨offset, behind, rfl, hname⟩ := Tokens.splits_cons_iff.1 hsplit
      obtain ⟨offset', rest', rfl, hnil⟩ := Tokens.splits_cons_iff.1 hname
      obtain rfl := Tokens.splits_nil_iff.1 hnil
      rw [suffixed_run h target hbudget htarget (Tokens.stops_primary _ offset _)]
      refine loop_extend 0 target.links_le_nesting rfl rfl ?_
      intro b hb
      rw [if_pos (Nat.zero_le b)]
      exact property_length (Tokens.advance_eq _ offset' hnil hstop)
  | .includes target needle, budget, tokens, rest, hbudget, hsplit, hstop => by
      obtain ⟨middle, htarget, hsplit⟩ := Tokens.splits_append_iff.1 hsplit
      obtain ⟨offset, behind, rfl, hname⟩ := Tokens.splits_cons_iff.1 hsplit
      obtain ⟨offset', behind, rfl, hopen⟩ := Tokens.splits_cons_iff.1 hname
      obtain ⟨offset'', behind, rfl, hneedle⟩ := Tokens.splits_cons_iff.1 hopen
      rw [suffixed_run h target hbudget htarget (Tokens.stops_primary _ offset _)]
      refine loop_extend (1 + needle.nesting) target.links_le_nesting rfl rfl ?_
      intro b hb
      have hparen := (Tokens.expect_eq_advance .openParen offset'' behind).trans
        (Tokens.advance_eq _ offset'' hneedle hstop)
      rw [property_includes rfl hparen, enclosed_complete h needle rfl (by omega) hneedle hstop]
      by_cases hle : 1 + needle.nesting ≤ b
      · rw [if_pos hle, if_pos hle]
        rfl
      · rw [if_neg hle, if_neg hle]
        rfl
  | .index target place, budget, tokens, rest, hbudget, hsplit, hstop => by
      obtain ⟨middle, htarget, hsplit⟩ := Tokens.splits_append_iff.1 hsplit
      obtain ⟨offset, behind, rfl, hplace⟩ := Tokens.splits_cons_iff.1 hsplit
      rw [suffixed_run h target hbudget htarget (Tokens.stops_primary _ offset _)]
      refine loop_extend (1 + place.nesting) target.links_le_nesting rfl
        (Tokens.advance_eq _ offset hplace hstop) ?_
      intro b hb
      rw [position_eq, enclosed_complete h place rfl (by omega) hplace hstop]
      by_cases hle : 1 + place.nesting ≤ b
      · rw [if_pos hle, if_pos hle]
        rfl
      · rw [if_neg hle, if_neg hle]
        rfl

theorem bind_suffixStep?_eq_none {rest : Tokens} (nested : Parser) (h : rest.Stops .suffixed) :
    rest.operator?.bind (suffixStep? nested) = none := by
  cases hop : rest.operator? with
  | none => rfl
  | some op =>
      obtain ⟨offset, behind, rfl⟩ := Tokens.operator?_eq_some hop
      cases op with
      | point => exact absurd h (by simp [Tokens.Stops, Operator.tightness, Level.rank])
      | openBracket => exact absurd h (by simp [Tokens.Stops, Operator.tightness, Level.rank])
      | _ => rfl

theorem reads_suffixed {nested : Parser} {n : Nat} (h : Reads nested (.chain .disjunction) n) :
    Reads (suffixed nested) .suffixed (n + 1) where
  complete := by
    intro p budget tokens rest hbudget hsplit hstop
    rw [suffixed_run h p hbudget hsplit (hstop.tighter (by decide)),
      loop_stop (bind_suffixStep?_eq_none nested hstop)]
  sound := by
    intro budget tokens rest e hparse
    rw [suffixed_eq] at hparse
    obtain ⟨⟨base, middle⟩, hbase, hloop⟩ := bind_eq_ok_iff.1 hparse
    obtain ⟨q, hq, rfl⟩ := (reads_primary h).sound hbase
    refine loop_invariant (fun e rest => ∃ p : Phrase .suffixed,
      tokens.Splits p.tokens rest ∧ p.expression = e) ?_ ⟨.plain q, hq, rfl⟩ hloop
    rintro op step offset behind b _ e' rest ⟨target, htarget, rfl⟩ hop hstep
    cases op with
    | point =>
        cases hop
        rcases property_sound h hstep with ⟨hname, rfl⟩ | ⟨needle, hneedle, rfl⟩
        · exact ⟨.length target, htarget.append (Tokens.Splits.cons _ offset hname), rfl⟩
        · exact ⟨.includes target needle,
            htarget.append (Tokens.Splits.cons _ offset hneedle), rfl⟩
    | openBracket =>
        cases hop
        rw [position_eq] at hstep
        obtain ⟨⟨place, rest⟩, hplace, heq⟩ := bind_eq_ok_iff.1 hstep
        obtain ⟨r, hr, rfl⟩ := enclosed_sound h hplace
        cases heq
        exact ⟨.index target r, htarget.append (Tokens.Splits.cons _ offset hr), rfl⟩
    | _ => cases hop
  syntactic := by
    intro budget tokens error hparse
    rw [suffixed_eq] at hparse
    rcases bind_eq_error_iff.1 hparse with hbase | ⟨r, _, hloop⟩
    · exact (reads_primary h).syntactic hbase
    · refine isSyntactic_loop ?_ hloop
      intro op step b e behind error hop hstep
      cases op with
      | point =>
          cases hop
          exact isSyntactic_property h hstep
      | openBracket =>
          cases hop
          rw [position_eq] at hstep
          rcases bind_eq_error_iff.1 hstep with henclosed | ⟨r, _, heq⟩
          · exact isSyntactic_enclosed h henclosed
          · cases heq
      | _ => cases hop

/-! ## Negations -/

theorem negated_other {nested : Parser} {budget : Nat} {tokens : Tokens}
    (h : tokens.operator? ≠ some .not) :
    negated nested budget tokens = suffixed nested budget tokens := by
  rw [negated.eq_def]
  dsimp only
  split
  next hop => exact absurd hop h
  next => rfl

theorem negated_not (nested : Parser) (budget offset : Nat) (behind : Tokens) :
    negated nested budget (.cons (.operator .not) offset behind) =
      (Tokens.cons (.operator .not) offset behind).advance >>= fun behind =>
        deeper (fun budget tokens => do
          let (operand, rest) ← negated nested budget tokens
          return (.not operand, rest)) budget behind := by
  rw [negated.eq_def]
  dsimp only [Tokens.operator?]
  cases budget <;> rfl

/-- A suffixed phrase does not begin with a negation. -/
theorem operator?_ne_not : ∀ (p : Phrase .suffixed) {tokens rest : Tokens},
    tokens.Splits p.tokens rest → tokens.operator? ≠ some .not
  | .plain base, tokens, rest, hsplit => by
      cases base <;> obtain ⟨offset, behind, rfl, -⟩ := Tokens.splits_cons_iff.1 hsplit <;>
        simp [Tokens.operator?]
  | .length target, tokens, rest, hsplit => by
      obtain ⟨middle, htarget, -⟩ := Tokens.splits_append_iff.1 hsplit
      exact operator?_ne_not target htarget
  | .includes target needle, tokens, rest, hsplit => by
      obtain ⟨middle, htarget, -⟩ := Tokens.splits_append_iff.1 hsplit
      exact operator?_ne_not target htarget
  | .index target place, tokens, rest, hsplit => by
      obtain ⟨middle, htarget, -⟩ := Tokens.splits_append_iff.1 hsplit
      exact operator?_ne_not target htarget

theorem negated_complete {nested : Parser} {n : Nat}
    (h : Reads (suffixed nested) .suffixed n) :
    ∀ (p : Phrase .negation) {budget : Nat} {tokens rest : Tokens}, budget < n →
      tokens.Splits p.tokens rest → rest.Stops .negation →
        negated nested budget tokens =
          if p.nesting ≤ budget then .ok (p.expression, rest) else .error .tooDeep
  | .positive inner, budget, tokens, rest, hbudget, hsplit, hstop => by
      rw [negated_other (operator?_ne_not inner hsplit)]
      exact h.complete inner hbudget hsplit (hstop.tighter (by decide))
  | .not inner, budget, tokens, rest, hbudget, hsplit, hstop => by
      obtain ⟨offset, behind, rfl, hinner⟩ := Tokens.splits_cons_iff.1 hsplit
      have hnesting : (Phrase.not inner).nesting = 1 + inner.nesting := rfl
      rw [negated_not, Tokens.advance_eq _ offset hinner hstop, ok_bind, hnesting]
      cases budget with
      | zero =>
          rw [if_neg (by omega)]
          rfl
      | succ budget =>
          rw [deeper, negated_complete h inner (by omega) hinner hstop]
          by_cases hle : inner.nesting ≤ budget
          · rw [if_pos hle, if_pos (by omega)]
            rfl
          · rw [if_neg hle, if_neg (by omega)]
            rfl

theorem negated_sound {nested : Parser} {n : Nat} (h : Reads (suffixed nested) .suffixed n)
    (budget : Nat) {tokens rest : Tokens} {e : Expression}
    (hparse : negated nested budget tokens = .ok (e, rest)) :
    ∃ p : Phrase .negation, tokens.Splits p.tokens rest ∧ p.expression = e := by
  induction budget generalizing tokens rest e with
  | zero =>
      by_cases hop : tokens.operator? = some .not
      · obtain ⟨offset, behind, rfl⟩ := Tokens.operator?_eq_some hop
        rw [negated_not] at hparse
        obtain ⟨behind, -, hdeeper⟩ := bind_eq_ok_iff.1 hparse
        cases hdeeper
      · rw [negated_other hop] at hparse
        obtain ⟨p, hp, rfl⟩ := h.sound hparse
        exact ⟨.positive p, hp, rfl⟩
  | succ budget ih =>
      by_cases hop : tokens.operator? = some .not
      · obtain ⟨offset, behind, rfl⟩ := Tokens.operator?_eq_some hop
        rw [negated_not] at hparse
        obtain ⟨behind, hbehind, hdeeper⟩ := bind_eq_ok_iff.1 hparse
        obtain rfl := Tokens.advance_eq_ok hbehind
        obtain ⟨⟨e', rest'⟩, hinner, heq⟩ := bind_eq_ok_iff.1 hdeeper
        obtain ⟨p, hp, rfl⟩ := ih hinner
        cases heq
        exact ⟨.not p, Tokens.Splits.cons _ offset hp, rfl⟩
      · rw [negated_other hop] at hparse
        obtain ⟨p, hp, rfl⟩ := h.sound hparse
        exact ⟨.positive p, hp, rfl⟩

theorem isSyntactic_negated {nested : Parser} {n : Nat}
    (h : Reads (suffixed nested) .suffixed n) (budget : Nat) {tokens : Tokens}
    {error : CheckerError} (hparse : negated nested budget tokens = .error error) :
    error.isSyntactic = true := by
  induction budget generalizing tokens with
  | zero =>
      by_cases hop : tokens.operator? = some .not
      · obtain ⟨offset, behind, rfl⟩ := Tokens.operator?_eq_some hop
        rw [negated_not] at hparse
        rcases bind_eq_error_iff.1 hparse with hadvance | ⟨behind, _, hdeeper⟩
        · exact Tokens.isSyntactic_advance hadvance
        · cases hdeeper
          rfl
      · rw [negated_other hop] at hparse
        exact h.syntactic hparse
  | succ budget ih =>
      by_cases hop : tokens.operator? = some .not
      · obtain ⟨offset, behind, rfl⟩ := Tokens.operator?_eq_some hop
        rw [negated_not] at hparse
        rcases bind_eq_error_iff.1 hparse with hadvance | ⟨behind, _, hdeeper⟩
        · exact Tokens.isSyntactic_advance hadvance
        · rcases bind_eq_error_iff.1 hdeeper with hinner | ⟨r, _, heq⟩
          · exact ih hinner
          · cases heq
      · rw [negated_other hop] at hparse
        exact h.syntactic hparse

theorem reads_negated {nested : Parser} {n : Nat} (h : Reads (suffixed nested) .suffixed n) :
    Reads (negated nested) .negation n where
  complete := fun p => negated_complete h p
  sound := negated_sound h _
  syntactic := isSyntactic_negated h _

end SubmissionGrader.Checker.Parser
