import SubmissionGrader.Proofs.Checker.Compile

/-!
# White space in a checker

A text is made of its tokens, each written in one of its ways, and of white space between them and
at the ends: `Spells`. That is all the reader sees of it, whichever offset the text begins at
(`tokenizes_iff_spells`), so white space at an end of a text, or between two tokens, neither makes,
changes nor takes away a token. A checker therefore compiles to the same expression without the
white space at its ends (`toOption_compile_trim`), and with more of it between any of its tokens
(`Spread.spells`).
-/

namespace SubmissionGrader

/-- A text is its trimmed form between white space. -/
theorem Text.exists_eq_append_trimChars (cs : List Char) :
    ∃ front back, cs = front ++ (trimChars cs ++ back) ∧ (∀ c ∈ front, isBlank c = true) ∧
      ∀ c ∈ back, isBlank c = true := by
  refine ⟨cs.takeWhile isBlank, ((dropBlanks cs).reverse.takeWhile isBlank).reverse, ?_, ?_, ?_⟩
  · rw [trimChars, ← List.reverse_append, List.takeWhile_append_dropWhile, List.reverse_reverse,
      dropBlanks, List.takeWhile_append_dropWhile]
  · exact fun c hc => List.mem_takeWhile_imp hc
  · exact fun c hc => List.mem_takeWhile_imp (List.mem_reverse.1 hc)

namespace Checker

/-! ## Tokens and the white space between them -/

/-- The text is made of the tokens, and of white space in front of each and behind the last one. No
token goes on where the next one, or the white space, begins. -/
def Spells : List Token → List Char → Prop
  | [], cs => ∀ c ∈ cs, Text.isBlank c = true
  | t :: ts, cs =>
    ∃ blanks written rest, cs = blanks ++ (written ++ rest) ∧
      (∀ c ∈ blanks, Text.isBlank c = true) ∧ t.IsWritten written ∧
      (∀ c ∈ rest.head?, t.isExtendedBy c = false) ∧ Spells ts rest

theorem tokenizes_iff_spells (offset : Nat) {cs : List Char} {ts : List Token} :
    Tokenizes offset cs ts ↔ Spells ts cs := by
  induction ts generalizing offset cs with
  | nil =>
    constructor
    · rintro (hfinish | -)
      exact (nextLexeme_eq_finish_iff.1 hfinish).1
    · exact fun h => .finish (nextLexeme_eq_finish_iff.2 ⟨h, rfl⟩)
  | cons t ts ih =>
    constructor
    · rintro (- | ⟨hnext, htail⟩)
      obtain ⟨blanks, written, hcs, hblanks, -, -, hwritten, hstop⟩ :=
        nextLexeme_eq_token_iff.1 hnext
      exact ⟨blanks, written, _, hcs, hblanks, hwritten, hstop, (ih _).1 htail⟩
    · rintro ⟨blanks, written, rest, hcs, hblanks, hwritten, hstop, htail⟩
      exact .token (nextLexeme_eq_token_iff.2
        ⟨blanks, written, hcs, hblanks, rfl, rfl, hwritten, hstop⟩) ((ih _).2 htail)

section Ends

variable {ts : List Token} {c : Char}

theorem spells_blank_cons_iff (hc : Text.isBlank c = true) {cs : List Char} :
    Spells ts (c :: cs) ↔ Spells ts cs := by
  cases ts with
  | nil => simp [Spells, hc]
  | cons t ts =>
    constructor
    · rintro ⟨blanks, written, rest, hcs, hblanks, hwritten, hstop, htail⟩
      cases blanks with
      | nil =>
        obtain ⟨d, ds, rfl, hd⟩ := hwritten.exists_eq_cons
        obtain ⟨rfl, -⟩ := List.cons.inj hcs
        simp [hc] at hd
      | cons b blanks =>
        obtain ⟨rfl, rfl⟩ := List.cons.inj hcs
        exact ⟨blanks, written, rest, rfl, (List.forall_mem_cons.1 hblanks).2, hwritten, hstop,
          htail⟩
    · rintro ⟨blanks, written, rest, rfl, hblanks, htail⟩
      exact ⟨c :: blanks, written, rest, rfl, List.forall_mem_cons.2 ⟨hc, hblanks⟩, htail⟩

theorem spells_concat_blank_iff (hc : Text.isBlank c = true) {cs : List Char} :
    Spells ts (cs ++ [c]) ↔ Spells ts cs := by
  -- A token that ends at the white space ends so without it as well, and the other way round.
  have hends {t : Token} {rest : List Char} :
      (∀ d ∈ (rest ++ [c]).head?, t.isExtendedBy d = false) ↔
        ∀ d ∈ rest.head?, t.isExtendedBy d = false := by
    cases rest with
    | nil => simp [t.isExtendedBy_of_isBlank hc]
    | cons d rest => rfl
  induction ts generalizing cs with
  | nil => simp [Spells, hc, or_imp, forall_and]
  | cons t ts ih =>
    constructor
    · rintro ⟨blanks, written, rest, hcs, hblanks, hwritten, hstop, htail⟩
      rcases List.eq_nil_or_concat rest with rfl | ⟨rest, d, rfl⟩
      · obtain ⟨front, e, rfl, he⟩ := hwritten.exists_eq_concat
        rw [List.append_nil, ← List.append_assoc] at hcs
        obtain ⟨-, heq⟩ := List.append_inj' hcs rfl
        obtain rfl : c = e := by simpa using heq
        simp [hc] at he
      · rw [List.concat_eq_append] at hcs hstop htail
        rw [← List.append_assoc, ← List.append_assoc] at hcs
        obtain ⟨rfl, heq⟩ := List.append_inj' hcs rfl
        obtain rfl : c = d := by simpa using heq
        exact ⟨blanks, written, rest, List.append_assoc _ _ _, hblanks, hwritten, hends.1 hstop,
          ih.1 htail⟩
    · rintro ⟨blanks, written, rest, rfl, hblanks, hwritten, hstop, htail⟩
      exact ⟨blanks, written, rest ++ [c], by simp, hblanks, hwritten, hends.2 hstop, ih.2 htail⟩

theorem spells_blanks_append_iff {front : List Char} (h : ∀ c ∈ front, Text.isBlank c = true)
    {cs : List Char} : Spells ts (front ++ cs) ↔ Spells ts cs := by
  induction front with
  | nil => rfl
  | cons c front ih =>
    obtain ⟨hc, h⟩ := List.forall_mem_cons.1 h
    exact (spells_blank_cons_iff hc).trans (ih h)

theorem spells_append_blanks_iff {back : List Char} (h : ∀ c ∈ back, Text.isBlank c = true)
    {cs : List Char} : Spells ts (cs ++ back) ↔ Spells ts cs := by
  induction back generalizing cs with
  | nil => rw [List.append_nil]
  | cons c back ih =>
    obtain ⟨hc, h⟩ := List.forall_mem_cons.1 h
    rw [List.append_cons, ih h, spells_concat_blank_iff hc]

end Ends

theorem tokenizes_trimChars_iff {offset : Nat} {cs : List Char} {ts : List Token} :
    Tokenizes offset (Text.trimChars cs) ts ↔ Tokenizes offset cs ts := by
  obtain ⟨front, back, hcs, hfront, hback⟩ := Text.exists_eq_append_trimChars cs
  calc Tokenizes offset (Text.trimChars cs) ts
    _ ↔ Spells ts (Text.trimChars cs) := tokenizes_iff_spells offset
    _ ↔ Spells ts (Text.trimChars cs ++ back) := (spells_append_blanks_iff hback).symm
    _ ↔ Spells ts (front ++ (Text.trimChars cs ++ back)) := (spells_blanks_append_iff hfront).symm
    _ ↔ Spells ts cs := by rw [← hcs]
    _ ↔ Tokenizes offset cs ts := (tokenizes_iff_spells offset).symm

theorem compile_eq_ok_iff {source : String} {c : Checker} :
    compile source = .ok c ↔ ∃ p : Phrase (.chain .disjunction),
      Tokenizes 0 source.toList p.tokens ∧ p.nesting ≤ maxDepth ∧ ⟨source, p.expression⟩ = c := by
  constructor
  · intro h
    obtain ⟨p, hp, hnesting, rfl⟩ := compile_sound h
    exact ⟨p, hp, hnesting, rfl⟩
  · rintro ⟨p, hp, hnesting, rfl⟩
    rw [compile_complete p hp, if_pos hnesting]

/-- A checker means the same without the white space at its ends. -/
theorem toOption_compile_trim (source : String) :
    (compile (Text.trim source)).toOption.map expression =
      (compile source).toOption.map expression := by
  ext e
  simp only [Option.map_eq_some_iff, toOption_eq_some_iff, compile_eq_ok_iff, Text.trim,
    String.toList_ofList, tokenizes_trimChars_iff]
  grind

/-! ## White space put between tokens -/

/-- The second text is the first one with white space put in at its ends, between its tokens and
where there is white space already. A token is what the reader takes for one at its place. -/
inductive Spread : List Char → List Char → Prop
  | nil : Spread [] []
  | insert {c : Char} {cs spread : List Char} (hc : Text.isBlank c = true) (h : Spread cs spread) :
      Spread cs (c :: spread)
  | blank {c : Char} {cs spread : List Char} (hc : Text.isBlank c = true) (h : Spread cs spread) :
      Spread (c :: cs) (c :: spread)
  | token {t : Token} {start stop : Nat} {written cs spread : List Char}
      (ht : lexemeAt 0 (written ++ cs) = .token t start stop cs) (h : Spread cs spread) :
      Spread (written ++ cs) (written ++ spread)

namespace Spread

variable {cs spread : List Char}

/-- The spread text goes on like the other one, or with white space. -/
theorem isBlank_or_mem_head? (h : Spread cs spread) :
    ∀ c ∈ spread.head?, Text.isBlank c = true ∨ c ∈ cs.head? := by
  cases h with
  | nil => exact fun c hc => .inr hc
  | insert hc =>
    rintro d ⟨⟩
    exact .inl hc
  | blank hc =>
    rintro d ⟨⟩
    exact .inl hc
  | token ht =>
    obtain ⟨c, tail, rfl, -⟩ := (isWritten_of_lexemeAt_append ht).1.exists_eq_cons
    exact fun d hd => .inr hd

theorem spells (h : Spread cs spread) {ts : List Token} (hts : Spells ts cs) :
    Spells ts spread := by
  induction h generalizing ts with
  | nil => exact hts
  | insert hc _ ih => exact (spells_blank_cons_iff hc).2 (ih hts)
  | blank hc _ ih => exact (spells_blank_cons_iff hc).2 (ih ((spells_blank_cons_iff hc).1 hts))
  | @token t start stop written cs spread ht h ih =>
    obtain ⟨hwritten, hstop⟩ := isWritten_of_lexemeAt_append ht
    have hnext : nextLexeme 0 (written ++ cs) = .token t 0 (0 + Text.byteCount written) cs :=
      nextLexeme_eq_token_iff.2 ⟨[], written, rfl, by simp, rfl, rfl, hwritten, hstop⟩
    have hspread : ∀ c ∈ spread.head?, t.isExtendedBy c = false := by
      intro c hc
      rcases h.isBlank_or_mem_head? c hc with hblank | hmem
      · exact t.isExtendedBy_of_isBlank hblank
      · exact hstop c hmem
    cases (tokenizes_iff_spells 0).2 hts with
    | finish hfinish => simp [hnext] at hfinish
    | token htoken htail =>
      obtain ⟨rfl, -, -, rfl⟩ := Lexeme.token.inj (hnext.symm.trans htoken)
      have htail := (tokenizes_iff_spells _).1 htail
      exact ⟨[], written, spread, rfl, by simp, hwritten, hspread, ih htail⟩

end Spread

/-- The layout of a checker has no influence on what it means. A text that compiles still compiles
to the same expression with any white space put in at its ends and between its tokens, and any text
compiles as it does without the white space at its ends. -/
theorem compile_layout_invariant (source : String) :
    (∀ e, compile source = .ok ⟨source, e⟩ →
      ∀ spread : String, Spread source.toList spread.toList → compile spread = .ok ⟨spread, e⟩) ∧
    (compile (Text.trim source)).toOption.map expression =
      (compile source).toOption.map expression := by
  refine ⟨fun e h spread hspread => ?_, toOption_compile_trim source⟩
  obtain ⟨p, hp, hnesting, heq⟩ := compile_eq_ok_iff.1 h
  obtain ⟨-, rfl⟩ := Checker.mk.inj heq
  have hp' := (tokenizes_iff_spells 0).2 (hspread.spells ((tokenizes_iff_spells 0).1 hp))
  exact compile_eq_ok_iff.2 ⟨p, hp', hnesting, rfl⟩

theorem compile_layout_invariant_of_inequality :
    let source := "!a!='b c'"
    let spread := "! a\u00a0!=\n'b c'\u2003"
    ∃ e, compile source = .ok ⟨source, e⟩ ∧ Spread source.toList spread.toList ∧
      compile spread = .ok ⟨spread, e⟩ := by
  intro source spread
  have hcompile : compile source = .ok ⟨source, .compare .unequal (.not (.name "a"))
      (.text "b c")⟩ := by
    decide +kernel +revert
  have htext : Spread (['\'', 'b', ' ', 'c', '\''] ++ [])
      (['\'', 'b', ' ', 'c', '\''] ++ ['\u2003']) :=
    .token rfl (.insert rfl .nil)
  have hunequal : Spread (['!', '='] ++ _) (['!', '='] ++ '\n' :: _) :=
    .token rfl (.insert rfl htext)
  have hname : Spread (['a'] ++ _) (['a'] ++ '\u00a0' :: _) := .token rfl (.insert rfl hunequal)
  have hnot : Spread (['!'] ++ _) (['!'] ++ ' ' :: _) := .token rfl (.insert rfl hname)
  have hsource : source.toList = ['!', 'a', '!', '=', '\'', 'b', ' ', 'c', '\''] := by
    decide +kernel +revert
  have htarget : spread.toList =
      ['!', ' ', 'a', '\u00a0', '!', '=', '\n', '\'', 'b', ' ', 'c', '\'', '\u2003'] := by
    decide +kernel +revert
  have hspread : Spread source.toList spread.toList := by
    rw [hsource, htarget]
    exact hnot
  exact ⟨_, hcompile, hspread, (compile_layout_invariant source).1 _ hcompile spread hspread⟩

end Checker

end SubmissionGrader
