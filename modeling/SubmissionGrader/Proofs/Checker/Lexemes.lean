import SubmissionGrader.Checker.Token
import SubmissionGrader.Proofs.Lists

/-!
# How tokens are written

A token is read as far as its characters go, so one character behind it tells where it ends. The
reader gives a token iff the text goes on with a way to write it (`Token.IsWritten`), and behind
that with no character that extends it (`Token.isExtendedBy`): `lexemeAt_eq_token_iff`, and with
white space in front `nextLexeme_eq_token_iff`. White space extends no token, and no token begins or
ends with it.
-/

namespace SubmissionGrader

namespace Text

theorem isBlank_eq_false {c : Char} (hlow : 33 ≤ c.toNat) (hhigh : c.toNat ≤ 132) :
    isBlank c = false := by
  rw [Bool.eq_false_iff]
  intro h
  simp only [isBlank, Ranges.has, blankRanges, Ranges.contains] at h
  grind

end Text

namespace Checker

/-! ## Characters that extend a token -/

/-- Whether an operator and the character right behind it begin another token. -/
def Operator.isExtendedBy : Operator → Char → Bool
  | point, c => c.isDigit
  | not, c => c == '='
  | compare comparison, c => comparison ∈ [.equal, .unequal, .less, .greater] && c == '='
  | _, _ => false

/-- Whether the character right behind a token belongs to it, or makes another token of it. -/
def Token.isExtendedBy : Token → Char → Bool
  | number _, c => isNumberPart c
  | text _, _ => false
  | name _, c => isNamePart c
  | operator op, c => op.isExtendedBy c

/-- The characters are a way to write the token. -/
inductive Token.IsWritten : Token → List Char → Prop
  | number {cs : List Char} {value : Binary64} (hstart : isNumberStart cs = true)
      (hparts : ∀ c ∈ cs, isNumberPart c = true) (hvalue : Binary64.ofText? cs = some value) :
      IsWritten (number value) cs
  | name {c : Char} {cs : List Char} (hstart : isNameStart c = true)
      (hparts : ∀ d ∈ c :: cs, isNamePart d = true) :
      IsWritten (name (String.ofList (c :: cs))) (c :: cs)
  | text {quote : Char} {cs content : List Char}
      (hquote : (quote == '\x22' || quote == '\x27') = true)
      (hcontent : quotedContent quote cs = some (content, [])) :
      IsWritten (text (String.ofList content)) (quote :: cs)
  | operator (op : Operator) : IsWritten (operator op) op.symbol.toList

/-! ## The characters of numbers and names -/

section Characters

variable {c : Char}

theorem toNat_of_isNumberPart (h : isNumberPart c = true) : 46 ≤ c.toNat ∧ c.toNat ≤ 57 := by
  simp only [isNumberPart, Char.isDigit, UInt32.le_iff_toNat_le, ge_iff_le, Bool.or_eq_true,
    Bool.and_eq_true, decide_eq_true_eq, beq_iff_eq, Char.reduceToNat, Char.toNat_val] at h
  rcases h with hdigit | rfl
  · exact ⟨by omega, hdigit.2⟩
  · decide

theorem toNat_of_isNamePart (h : isNamePart c = true) : 36 ≤ c.toNat ∧ c.toNat ≤ 122 := by
  simp only [isNamePart, Char.isAlphanum, Char.isDigit] at h
  delta Char.isAlpha Char.isUpper Char.isLower at h
  simp only [UInt32.le_iff_toNat_le, ge_iff_le, Bool.or_eq_true, Bool.and_eq_true,
    decide_eq_true_eq, beq_iff_eq, Char.reduceToNat, Char.toNat_val] at h
  rcases h with (rfl | rfl) | h
  · decide
  · decide
  · omega

theorem utf8Size_eq_one (h : c.toNat ≤ 127) : c.utf8Size = 1 := by
  rw [Char.utf8Size_eq_one_iff, UInt32.le_iff_toNat_le, Char.toNat_val]
  exact h

theorem isBlank_of_isNumberPart (h : isNumberPart c = true) : Text.isBlank c = false := by
  have hbounds := toNat_of_isNumberPart h
  exact Text.isBlank_eq_false (by omega) (by omega)

theorem isBlank_of_isNamePart (h : isNamePart c = true) : Text.isBlank c = false := by
  have hbounds := toNat_of_isNamePart h
  exact Text.isBlank_eq_false (by omega) (by omega)

theorem isNamePart_of_isNameStart (h : isNameStart c = true) : isNamePart c = true := by
  simp only [isNameStart, isNamePart, Char.isAlphanum, Bool.or_eq_true] at h ⊢
  rcases h with h | h
  · exact Or.inl h
  · exact Or.inr (Or.inl h)

theorem not_isNumberPart_of_isNameStart (h : isNameStart c = true) : ¬isNumberPart c = true := by
  intro hpart
  have hbounds := toNat_of_isNumberPart hpart
  simp only [isNameStart] at h
  delta Char.isAlpha Char.isUpper Char.isLower at h
  simp only [UInt32.le_iff_toNat_le, ge_iff_le, Bool.or_eq_true, Bool.and_eq_true,
    decide_eq_true_eq, beq_iff_eq, Char.reduceToNat, Char.toNat_val] at h
  rcases h with (rfl | rfl) | h
  · exact absurd hpart (by decide)
  · exact absurd hpart (by decide)
  · omega

theorem isNumberPart_of_isNumberStart {cs : List Char} (h : isNumberStart (c :: cs) = true) :
    isNumberPart c = true := by
  unfold isNumberStart at h
  split at h
  next heq =>
    simp only [List.cons.injEq] at heq
    simp [isNumberPart, heq.1]
  next heq =>
    simp only [List.cons.injEq] at heq
    simp [isNumberPart, heq.1, h]
  next heq => simp at heq

theorem isNumberStart_cons (h : ¬isNumberPart c = true) (cs : List Char) :
    isNumberStart (c :: cs) = false :=
  Bool.eq_false_iff.2 fun hstart => h (isNumberPart_of_isNumberStart hstart)

/-- Whether a number begins can be told from the characters that it can have. -/
theorem isNumberStart_append {written rest : List Char}
    (hstop : ∀ c ∈ rest.head?, isNumberPart c = false) :
    isNumberStart (written ++ rest) = isNumberStart written := by
  match written with
  | [] =>
    cases rest with
    | nil => rfl
    | cons c rest => exact isNumberStart_cons (Bool.eq_false_iff.1 (hstop c rfl)) rest
  | [c] =>
    by_cases hc : c = '.'
    · subst hc
      cases rest with
      | nil => rfl
      | cons d rest =>
        have hd : isNumberPart d = false := hstop d rfl
        simp_all [isNumberStart, isNumberPart]
    · simp [isNumberStart, hc]
  | c :: d :: tail => by_cases hc : c = '.' <;> simp [isNumberStart, hc]

end Characters

/-! ## Quoted texts -/

section Quoted

variable {quote : Char}

theorem quotedContent_cons {c : Char} (hc : c ≠ '\\') (rest : List Char) :
    quotedContent quote (c :: rest) =
      if c == quote then some ([], rest)
      else if c == '\n' then none
      else (quotedContent quote rest).map fun (content, r) => (c :: content, r) := by
  rw [quotedContent]
  · exact fun h _ => hc h
  · exact fun _ _ h _ => hc h

/-- What the functional induction says of a plain character: no escape begins with it. -/
theorem ne_backslash {c : Char} {rest : List Char} (hlast : c = '\\' → rest = [] → False)
    (hescape : ∀ d tail, c = '\\' → rest = d :: tail → False) : c ≠ '\\' := by
  intro hc
  cases rest with
  | nil => exact hlast hc rfl
  | cons d tail => exact hescape d tail hc rfl

theorem quotedContent_append {cs content behind : List Char}
    (h : quotedContent quote cs = some (content, behind)) (rest : List Char) :
    quotedContent quote (cs ++ rest) = some (content, behind ++ rest) := by
  fun_induction quotedContent quote cs generalizing content with
  | case1 => cases h
  | case2 => cases h
  | case3 c cs ih =>
    obtain ⟨⟨inner, after⟩, hinner, heq⟩ := Option.map_eq_some_iff.1 h
    obtain ⟨rfl, rfl⟩ := Prod.mk.inj heq
    simp [quotedContent, ih hinner]
  | case4 c cs hlast hescape hend =>
    obtain ⟨rfl, rfl⟩ := Prod.mk.inj (Option.some.inj h)
    simp [quotedContent_cons (ne_backslash hlast hescape), hend]
  | case5 => cases h
  | case6 c cs hlast hescape hend hfeed ih =>
    obtain ⟨⟨inner, after⟩, hinner, heq⟩ := Option.map_eq_some_iff.1 h
    obtain ⟨rfl, rfl⟩ := Prod.mk.inj heq
    simp [quotedContent_cons (ne_backslash hlast hescape), Bool.eq_false_iff.2 hend,
      Bool.eq_false_iff.2 hfeed, ih hinner]

/-- A quoted text ends with its quote, and what stands behind it is not looked at. -/
theorem exists_quotedContent_eq {cs content rest : List Char}
    (h : quotedContent quote cs = some (content, rest)) :
    ∃ body, cs = body ++ quote :: rest ∧
      quotedContent quote (body ++ [quote]) = some (content, []) := by
  fun_induction quotedContent quote cs generalizing content with
  | case1 => cases h
  | case2 => cases h
  | case3 c cs ih =>
    obtain ⟨⟨inner, after⟩, hinner, heq⟩ := Option.map_eq_some_iff.1 h
    obtain ⟨rfl, rfl⟩ := Prod.mk.inj heq
    obtain ⟨body, rfl, hbody⟩ := ih hinner
    exact ⟨'\\' :: c :: body, rfl, by simp [quotedContent, hbody]⟩
  | case4 c cs hlast hescape hend =>
    obtain ⟨rfl, rfl⟩ := Prod.mk.inj (Option.some.inj h)
    obtain rfl : c = quote := beq_iff_eq.1 hend
    exact ⟨[], rfl, by simp [quotedContent_cons (ne_backslash hlast hescape)]⟩
  | case5 => cases h
  | case6 c cs hlast hescape hend hfeed ih =>
    obtain ⟨⟨inner, after⟩, hinner, heq⟩ := Option.map_eq_some_iff.1 h
    obtain ⟨rfl, rfl⟩ := Prod.mk.inj heq
    obtain ⟨body, rfl, hbody⟩ := ih hinner
    refine ⟨c :: body, rfl, ?_⟩
    simp [quotedContent_cons (ne_backslash hlast hescape), Bool.eq_false_iff.2 hend,
      Bool.eq_false_iff.2 hfeed, hbody]

theorem not_part_of_isQuote (h : (quote == '\x22' || quote == '\x27') = true) :
    ¬isNumberPart quote = true ∧ isNameStart quote = false ∧ Text.isBlank quote = false := by
  rcases Bool.or_eq_true_iff.1 h with h | h
  · rw [beq_iff_eq.1 h]
    decide
  · rw [beq_iff_eq.1 h]
    decide

end Quoted

/-! ## Operators -/

namespace Operator

theorem byteCount_symbol (op : Operator) : Text.byteCount op.symbol.toList = op.symbol.length := by
  cases op with
  | compare comparison => cases comparison <;> decide
  | _ => decide

theorem isBlank_of_mem_symbol (op : Operator) : ∀ c ∈ op.symbol.toList, Text.isBlank c = false := by
  have hall : op.symbol.toList.all (!Text.isBlank ·) = true := by
    cases op with
    | compare comparison => cases comparison <;> decide
    | _ => decide
  intro c hc
  simpa using List.all_eq_true.1 hall c hc

theorem exists_symbol_eq_cons (op : Operator) :
    ∃ c cs, op.symbol.toList = c :: cs ∧ isNameStart c = false ∧
      (c == '\x22' || c == '\x27') = false := by
  cases op with
  | compare comparison => cases comparison <;> exact ⟨_, _, rfl, by decide, by decide⟩
  | _ => exact ⟨_, _, rfl, by decide, by decide⟩

/-- Only an equals sign makes a longer operator of another one, and only a digit behind a point
makes a number. -/
theorem atFront?_symbol_append_iff (op : Operator) (rest : List Char) :
    (isNumberStart (op.symbol.toList ++ rest) = false ∧
      atFront? (op.symbol.toList ++ rest) = some op) ↔
      ∀ c ∈ rest.head?, op.isExtendedBy c = false := by
  cases rest with
  | nil =>
    rw [List.append_nil]
    refine iff_of_true ?_ (by simp)
    cases op with
    | compare comparison => cases comparison <;> decide
    | _ => decide
  | cons c rest =>
    have hcomm : ('=' == c) = (c == '=') := BEq.comm
    cases op with
    | compare comparison =>
      cases comparison <;> simp [atFront?, all, symbol, Comparison.symbol, isNumberStart,
        isExtendedBy, List.isPrefixOf_cons_cons, hcomm]
    | not =>
      by_cases hc : c = '=' <;> simp [atFront?, all, symbol, Comparison.symbol, isNumberStart,
        isExtendedBy, List.isPrefixOf_cons_cons, hcomm, hc]
    | _ =>
      simp [atFront?, all, symbol, Comparison.symbol, isNumberStart, isExtendedBy,
        List.isPrefixOf_cons_cons, hcomm]

end Operator

/-! ## Tokens and white space -/

theorem Token.isExtendedBy_of_isBlank (t : Token) {c : Char} (h : Text.isBlank c = true) :
    t.isExtendedBy c = false := by
  have hnumber : isNumberPart c = false :=
    Bool.eq_false_iff.2 fun hpart => by simp [isBlank_of_isNumberPart hpart] at h
  have hname : isNamePart c = false :=
    Bool.eq_false_iff.2 fun hpart => by simp [isBlank_of_isNamePart hpart] at h
  have hdigit : c.isDigit = false := (Bool.or_eq_false_iff.1 hnumber).1
  have hequals : (c == '=') = false := by
    rw [beq_eq_false_iff_ne]
    rintro rfl
    exact absurd h (by decide)
  cases t with
  | number value => exact hnumber
  | text value => rfl
  | name value => exact hname
  | operator op => cases op <;> simp [isExtendedBy, Operator.isExtendedBy, hequals, hdigit]

namespace Token.IsWritten

variable {t : Token} {written : List Char}

/-- A written token has no white space in it, or it stands in quotes. -/
theorem blank_free_or_quoted (h : t.IsWritten written) :
    (written ≠ [] ∧ ∀ c ∈ written, Text.isBlank c = false) ∨
      ∃ quote body, Text.isBlank quote = false ∧ written = quote :: (body ++ [quote]) := by
  cases h with
  | number hstart hparts hvalue =>
    refine .inl ⟨?_, fun c hc => isBlank_of_isNumberPart (hparts c hc)⟩
    rintro rfl
    cases hstart
  | name hstart hparts =>
    exact .inl ⟨List.cons_ne_nil _ _, fun c hc => isBlank_of_isNamePart (hparts c hc)⟩
  | text hquote hcontent =>
    obtain ⟨body, rfl, -⟩ := exists_quotedContent_eq hcontent
    exact .inr ⟨_, body, (not_part_of_isQuote hquote).2.2, rfl⟩
  | operator op =>
    obtain ⟨c, cs, hsymbol, -⟩ := op.exists_symbol_eq_cons
    exact .inl ⟨hsymbol ▸ List.cons_ne_nil c cs, op.isBlank_of_mem_symbol⟩

theorem exists_eq_cons (h : t.IsWritten written) :
    ∃ c cs, written = c :: cs ∧ Text.isBlank c = false := by
  rcases h.blank_free_or_quoted with ⟨hne, hfree⟩ | ⟨quote, body, hquote, rfl⟩
  · obtain ⟨c, cs, rfl⟩ := List.exists_cons_of_ne_nil hne
    exact ⟨c, cs, rfl, hfree c List.mem_cons_self⟩
  · exact ⟨quote, _, rfl, hquote⟩

theorem exists_eq_concat (h : t.IsWritten written) :
    ∃ cs c, written = cs ++ [c] ∧ Text.isBlank c = false := by
  rcases h.blank_free_or_quoted with ⟨hne, hfree⟩ | ⟨quote, body, hquote, rfl⟩
  · obtain ⟨cs, c, rfl⟩ := (List.eq_nil_or_concat written).resolve_left hne
    rw [List.concat_eq_append] at hfree ⊢
    exact ⟨cs, c, rfl, hfree c (by simp)⟩
  · exact ⟨quote :: body, quote, rfl, hquote⟩

end Token.IsWritten

/-! ## Reading a token -/

section Reading

variable {offset start stop : Nat} {cs rest : List Char} {t : Token}

theorem exists_isWritten_of_lexemeAt (h : lexemeAt offset cs = .token t start stop rest) :
    ∃ written, cs = written ++ rest ∧ t.IsWritten written ∧
      ∀ c ∈ rest.head?, t.isExtendedBy c = false := by
  cases cs with
  | nil => cases h
  | cons c cs =>
    -- The reader tries a number, a name, a quoted text and an operator, in this order. That the
    -- text of an operator is no number is needed where a point stands in front of a digit.
    simp only [lexemeAt] at h
    split at h
    next hstart =>
      split at h
      next value hvalue =>
        obtain ⟨rfl, -, -, hrest⟩ := Lexeme.token.inj h
        obtain ⟨heq, hparts, hstop⟩ := Lists.eq_takeWhile_append_of_dropWhile hrest
        rw [heq, isNumberStart_append hstop] at hstart
        exact ⟨_, heq, .number hstart hparts hvalue, hstop⟩
      next => cases h
    next hnumber =>
      split at h
      next hstart =>
        obtain ⟨rfl, -, -, hrest⟩ := Lexeme.token.inj h
        obtain ⟨heq, hparts, hstop⟩ := Lists.eq_takeWhile_append_of_dropWhile hrest
        have hcons : (c :: cs).takeWhile isNamePart = c :: cs.takeWhile isNamePart :=
          List.takeWhile_cons_of_pos (isNamePart_of_isNameStart hstart)
        rw [hcons] at heq hparts ⊢
        exact ⟨_, heq, .name hstart hparts, hstop⟩
      next =>
        split at h
        next hquote =>
          split at h
          next content behind hcontent =>
            obtain ⟨rfl, -, -, rfl⟩ := Lexeme.token.inj h
            obtain ⟨body, rfl, hbody⟩ := exists_quotedContent_eq hcontent
            exact ⟨c :: (body ++ [c]), by simp, .text hquote hbody, fun _ _ => rfl⟩
          next => cases h
        next =>
          split at h
          next op hop =>
            obtain ⟨rfl, -, -, hrest⟩ := Lexeme.token.inj h
            have hfront : op.symbol.toList <+: c :: cs := by simpa using List.find?_some hop
            obtain ⟨behind, heq⟩ := hfront
            rw [← heq, ← String.length_toList, List.drop_left] at hrest
            subst hrest
            rw [← heq] at hop hnumber
            have hstop := (op.atFront?_symbol_append_iff behind).1
              ⟨Bool.eq_false_iff.2 hnumber, hop⟩
            exact ⟨_, heq.symm, .operator op, hstop⟩
          next => cases h

theorem Token.IsWritten.lexemeAt_append {written : List Char} (h : t.IsWritten written)
    (hstop : ∀ c ∈ rest.head?, t.isExtendedBy c = false) (offset : Nat) :
    lexemeAt offset (written ++ rest) =
      .token t offset (offset + Text.byteCount written) rest := by
  cases h with
  | number hstart hparts hvalue =>
    have hbytes := Text.byteCount_eq_length_iff.2 fun c hc =>
      utf8Size_eq_one (Nat.le_trans (toNat_of_isNumberPart (hparts c hc)).2 (by decide))
    have hstart' := (isNumberStart_append hstop).trans hstart
    have htake := Lists.takeWhile_append_eq hparts hstop
    have hdrop := Lists.dropWhile_append_eq hparts hstop
    cases written with
    | nil => cases hstart
    | cons c cs =>
      rw [List.cons_append] at hstart' htake hdrop ⊢
      simp only [lexemeAt, hstart', if_true, htake, hdrop, hvalue, hbytes]
  | name hstart hparts =>
    have hbytes := Text.byteCount_eq_length_iff.2 fun c hc =>
      utf8Size_eq_one (Nat.le_trans (toNat_of_isNamePart (hparts c hc)).2 (by decide))
    have htake := Lists.takeWhile_append_eq hparts hstop
    have hdrop := Lists.dropWhile_append_eq hparts hstop
    rw [List.cons_append] at htake hdrop ⊢
    simp only [lexemeAt, isNumberStart_cons (not_isNumberPart_of_isNameStart hstart),
      Bool.false_eq_true, if_false, hstart, if_true, htake, hdrop, hbytes]
  | @text quote cs content hquote hcontent =>
    obtain ⟨hnumber, hname, -⟩ := not_part_of_isQuote hquote
    have happend := quotedContent_append hcontent rest
    have hbytes : Text.byteCount (quote :: (cs ++ rest)) - Text.byteCount rest =
        Text.byteCount (quote :: cs) := by
      rw [← List.cons_append, Text.byteCount_append, Nat.add_sub_cancel]
    simp only [lexemeAt, List.cons_append, isNumberStart_cons hnumber, Bool.false_eq_true, if_false,
      hname, hquote, if_true, happend, List.nil_append, hbytes]
  | operator op =>
    obtain ⟨hnumber, hop⟩ := (op.atFront?_symbol_append_iff rest).2 hstop
    obtain ⟨c, cs, heq, hname, hquote⟩ := op.exists_symbol_eq_cons
    have hdrop : (op.symbol.toList ++ rest).drop op.symbol.length = rest := by
      rw [← String.length_toList, List.drop_left]
    have hbytes := op.byteCount_symbol
    rw [heq] at hnumber hop hdrop hbytes ⊢
    rw [List.cons_append] at hnumber hop hdrop ⊢
    simp only [lexemeAt, hnumber, Bool.false_eq_true, if_false, hname, hquote, hop, hdrop, hbytes]

/-- A token is at the front of a text iff the text begins with a way to write it, and the character
behind that does not extend it. -/
theorem lexemeAt_eq_token_iff :
    lexemeAt offset cs = .token t start stop rest ↔
      ∃ written, cs = written ++ rest ∧ start = offset ∧ stop = start + Text.byteCount written ∧
        t.IsWritten written ∧ ∀ c ∈ rest.head?, t.isExtendedBy c = false := by
  constructor
  · intro h
    obtain ⟨written, rfl, hwritten, hstop⟩ := exists_isWritten_of_lexemeAt h
    obtain ⟨-, rfl, rfl, -⟩ :=
      Lexeme.token.inj ((hwritten.lexemeAt_append hstop offset).symm.trans h)
    exact ⟨written, rfl, rfl, rfl, hwritten, hstop⟩
  · rintro ⟨written, rfl, rfl, rfl, hwritten, hstop⟩
    exact hwritten.lexemeAt_append hstop start

theorem isWritten_of_lexemeAt_append {written : List Char}
    (h : lexemeAt offset (written ++ rest) = .token t start stop rest) :
    t.IsWritten written ∧ ∀ c ∈ rest.head?, t.isExtendedBy c = false := by
  obtain ⟨written', heq, -, -, hwritten, hstop⟩ := lexemeAt_eq_token_iff.1 h
  obtain rfl : written = written' := List.append_cancel_right heq
  exact ⟨hwritten, hstop⟩

/-- The next token of a text stands behind all white space at the front. -/
theorem nextLexeme_eq_token_iff :
    nextLexeme offset cs = .token t start stop rest ↔
      ∃ blanks written, cs = blanks ++ (written ++ rest) ∧ (∀ c ∈ blanks, Text.isBlank c = true) ∧
        start = offset + Text.byteCount blanks ∧ stop = start + Text.byteCount written ∧
        t.IsWritten written ∧ ∀ c ∈ rest.head?, t.isExtendedBy c = false := by
  constructor
  · intro h
    obtain ⟨written, heq, hstart, hend, hwritten, hstop⟩ := lexemeAt_eq_token_iff.1 h
    obtain ⟨hcs, hblanks, -⟩ := Lists.eq_takeWhile_append_of_dropWhile heq
    exact ⟨_, written, hcs, hblanks, hstart, hend, hwritten, hstop⟩
  · rintro ⟨blanks, written, rfl, hblanks, hstart, hend, hwritten, hstop⟩
    have hhead : ∀ c ∈ (written ++ rest).head?, Text.isBlank c = false := by
      obtain ⟨c, cs, rfl, hc⟩ := hwritten.exists_eq_cons
      rintro d ⟨⟩
      exact hc
    rw [nextLexeme, Text.dropBlanks, Lists.takeWhile_append_eq hblanks hhead,
      Lists.dropWhile_append_eq hblanks hhead]
    exact lexemeAt_eq_token_iff.2 ⟨written, rfl, hstart, hend, hwritten, hstop⟩

/-- No token follows iff nothing but white space does. -/
theorem nextLexeme_eq_finish_iff :
    nextLexeme offset cs = .finish stop ↔
      (∀ c ∈ cs, Text.isBlank c = true) ∧ stop = offset + Text.byteCount cs := by
  constructor
  · intro h
    have hnil : Text.dropBlanks cs = [] := by
      rw [nextLexeme] at h
      cases hcs : Text.dropBlanks cs with
      | nil => rfl
      | cons c rest =>
        simp only [hcs, lexemeAt] at h
        repeat' split at h
        all_goals cases h
    have hall : ∀ c ∈ cs, Text.isBlank c = true := List.dropWhile_eq_nil_iff.1 hnil
    rw [nextLexeme, hnil, List.takeWhile_eq_self_iff.2 hall] at h
    exact ⟨hall, (Lexeme.finish.inj h).symm⟩
  · rintro ⟨hall, rfl⟩
    rw [nextLexeme, Text.dropBlanks, List.dropWhile_eq_nil_iff.2 hall,
      List.takeWhile_eq_self_iff.2 hall, lexemeAt]

end Reading

end Checker

end SubmissionGrader
