import SubmissionGrader.Json.Basic

/-!
# Reading what was written

A value that is written on one line is read back as it was written, up to the spelling of its
strings: `Json.toRaw` is what a reader finds (`read?_compact`). There are no line feeds in what is
written, whatever the strings of the value hold (`newline_not_mem_compact`).
-/

namespace SubmissionGrader.Json

/-! ## Strings -/

/-- How a character is found in a string that was written. -/
def Piece.ofChar (c : Char) : Piece :=
  if c ∈ ['\x08', '\x0c', '\n', '\r', '\t'] ∨ 0x20 ≤ c.toNat then .char c else .unit c.toNat

theorem hexDigit?_hexDigit : ∀ n < 16, hexDigit? (hexDigit n) = some n := by decide

theorem hexUnit?_hexDigit {n : Nat} (h : n < 0x20) :
    hexUnit? '0' '0' (hexDigit (n / 16)) (hexDigit (n % 16)) = some n := by
  rw [hexUnit?, hexDigit?_hexDigit _ (by omega), hexDigit?_hexDigit _ (by omega)]
  have hzero : hexDigit? '0' = some 0 := by decide
  simp only [hzero, Option.bind_eq_bind, Option.bind_some, Option.pure_def]
  congr 1
  omega

/-- A character that stands for itself in a string. -/
theorem readPieces_cons {c : Char} (hquote : c ≠ '\x22') (hback : c ≠ '\\')
    (hprint : 0x20 ≤ c.toNat) (rest : List Char) :
    readPieces (c :: rest) =
      (readPieces rest).map fun (pieces, behind) => (.char c :: pieces, behind) := by
  have hshown : ¬c.toNat < 32 := Nat.not_lt.2 hprint
  rw [readPieces.eq_def]
  split
  case h_1 heq => cases heq
  case h_2 heq => exact absurd (List.cons.inj heq).1 hquote
  case h_3 heq => exact absurd (List.cons.inj heq).1 hback
  case h_4 heq => exact absurd (List.cons.inj heq).1 hback
  case h_5 heq =>
    obtain ⟨rfl, rfl⟩ := List.cons.inj heq
    cases readPieces rest <;> simp [hshown, hback]

/-- What stands behind a backslash for a character of its own. -/
theorem readPieces_escaped {letter c : Char} (hletter : letter ≠ 'u') (h : escaped? letter = some c)
    (rest : List Char) :
    readPieces ('\\' :: letter :: rest) =
      (readPieces rest).map fun (pieces, behind) => (.char c :: pieces, behind) := by
  rw [readPieces.eq_def]
  split
  case h_1 heq => cases heq
  case h_2 heq => exact absurd (List.cons.inj heq).1 (by decide)
  case h_3 heq => exact absurd (List.cons.inj (List.cons.inj heq).2).1 hletter
  case h_4 heq =>
    obtain ⟨rfl, rfl⟩ := List.cons.inj (List.cons.inj heq).2
    rw [h]
    cases readPieces rest <;> rfl
  case h_5 hother heq =>
    obtain ⟨rfl, rfl⟩ := List.cons.inj heq
    exact absurd rfl (hother letter rest rfl)

def lettered : List Char := ['\x22', '\\', '\x08', '\x0c', '\n', '\r', '\t']

theorem exists_letter : ∀ c ∈ lettered, ∃ letter ∈ ['\x22', '\\', 'b', 'f', 'n', 'r', 't'],
    escaped? letter = some c ∧ writtenChar c = ['\\', letter] ∧ Piece.ofChar c = .char c := by
  simp only [lettered, List.forall_mem_cons]
  exact ⟨⟨'\x22', by decide⟩, ⟨'\\', by decide⟩, ⟨'b', by decide⟩, ⟨'f', by decide⟩,
    ⟨'n', by decide⟩, ⟨'r', by decide⟩, ⟨'t', by decide⟩, nofun⟩

/-- The three ways to write a character in a string. -/
inductive WrittenAs (c : Char) : List Char → Piece → Prop
  | letter {letter : Char} (hletter : letter ∈ ['\x22', '\\', 'b', 'f', 'n', 'r', 't'])
      (h : escaped? letter = some c) : WrittenAs c ['\\', letter] (.char c)
  | unit (hlow : c.toNat < 0x20) :
      WrittenAs c ['\\', 'u', '0', '0', hexDigit (c.toNat / 16), hexDigit (c.toNat % 16)]
        (.unit c.toNat)
  | plain (hquote : c ≠ '\x22') (hback : c ≠ '\\') (hprint : 0x20 ≤ c.toNat) :
      WrittenAs c [c] (.char c)

theorem writtenAs_writtenChar (c : Char) : WrittenAs c (writtenChar c) (.ofChar c) := by
  by_cases hmem : c ∈ lettered
  · obtain ⟨letter, hletter, hescaped, hwritten, hpiece⟩ := exists_letter c hmem
    rw [hwritten, hpiece]
    exact .letter hletter hescaped
  · simp only [lettered, List.mem_cons, List.not_mem_nil, or_false, not_or] at hmem
    by_cases hlow : c.toNat < 0x20
    · have hwritten : writtenChar c =
          ['\\', 'u', '0', '0', hexDigit (c.toNat / 16), hexDigit (c.toNat % 16)] := by
        simp [writtenChar, hmem, hlow]
      have hpiece : Piece.ofChar c = .unit c.toNat := by simp [Piece.ofChar, hmem, hlow]
      rw [hwritten, hpiece]
      exact .unit hlow
    · have hwritten : writtenChar c = [c] := by simp [writtenChar, hmem, hlow]
      have hpiece : Piece.ofChar c = .char c := if_pos (.inr (Nat.not_lt.1 hlow))
      rw [hwritten, hpiece]
      exact .plain hmem.1 hmem.2.1 (Nat.not_lt.1 hlow)

theorem WrittenAs.readPieces {c : Char} {cs : List Char} {p : Piece} (h : WrittenAs c cs p)
    (rest : List Char) :
    readPieces (cs ++ rest) =
      (readPieces rest).map fun (pieces, behind) => (p :: pieces, behind) := by
  cases h with
  | @letter letter hletter h =>
    have hu : letter ≠ 'u' := by
      rintro rfl
      exact absurd hletter (by decide)
    exact readPieces_escaped hu h rest
  | unit hlow =>
    simp only [List.cons_append, List.nil_append, Json.readPieces, hexUnit?_hexDigit hlow]
    cases Json.readPieces rest <;> rfl
  | plain hquote hback hprint => exact readPieces_cons hquote hback hprint rest

/-- A string that was written is read up to its end quote. -/
theorem readPieces_written (cs rest : List Char) :
    readPieces (cs.flatMap writtenChar ++ '\x22' :: rest) = some (cs.map .ofChar, rest) := by
  induction cs with
  | nil => rfl
  | cons c cs ih =>
    rw [List.flatMap_cons, List.append_assoc, (writtenAs_writtenChar c).readPieces, ih]
    rfl

theorem assemble?_unit {n : Nat} (h : n < 0x20) (pieces : List Piece) :
    assemble? (.unit n :: pieces) = (assemble? pieces).map (Char.ofNat n :: ·) := by
  have hleading : isLeading n = false := by simp [isLeading]; omega
  have htrailing : isTrailing n = false := by simp [isTrailing]; omega
  cases pieces with
  | nil => simp [assemble?, hleading, htrailing]
  | cons p pieces => cases p <;> simp [assemble?, hleading, htrailing]

theorem WrittenAs.assemble? {c : Char} {cs : List Char} {p : Piece} (h : WrittenAs c cs p)
    (pieces : List Piece) : assemble? (p :: pieces) = (assemble? pieces).map (c :: ·) := by
  cases h with
  | letter | plain => rfl
  | unit hlow => rw [assemble?_unit hlow, Char.ofNat_toNat]

/-- The pieces of a string that was written denote its characters. -/
theorem assemble?_map_ofChar (cs : List Char) : assemble? (cs.map .ofChar) = some cs := by
  induction cs with
  | nil => rfl
  | cons c cs ih =>
    rw [List.map_cons, (writtenAs_writtenChar c).assemble?, ih]
    rfl

theorem WrittenAs.newline_not_mem {c : Char} {cs : List Char} {p : Piece} (h : WrittenAs c cs p) :
    '\n' ∉ cs := by
  cases h with
  | letter hletter =>
    rintro (_ | ⟨_, _ | ⟨_, hmem⟩⟩)
    · exact absurd hletter (by decide)
    · cases hmem
  | unit hlow =>
    have hdigit : ∀ n < 16, hexDigit n ≠ '\n' := by decide
    simp only [List.mem_cons, List.not_mem_nil, or_false, not_or]
    exact ⟨by decide, by decide, by decide, by decide, (hdigit _ (by omega)).symm,
      (hdigit _ (by omega)).symm⟩
  | plain hquote hback hprint =>
    rintro (_ | ⟨_, hmem⟩)
    · exact absurd hprint (by decide)
    · cases hmem

/-! ## Values -/

mutual

/-- The value as a reader finds it. -/
def toRaw : Json → Raw
  | null => .null
  | boolean value => .boolean value
  | number digits => .number digits.toList
  | string value => .string (value.toList.map .ofChar)
  | array items => .array (rawItems items)
  | object members => .object (rawMembers members)

def rawItems : List Json → List Raw
  | [] => []
  | item :: rest => toRaw item :: rawItems rest

def rawMembers : List (String × Json) → List (List Piece × Raw)
  | [] => []
  | (key, value) :: rest => (key.toList.map .ofChar, toRaw value) :: rawMembers rest

end

/-- The end of a number: what stands behind it is no part of it. -/
def Delimited (rest : List Char) : Prop := ∀ c ∈ rest.head?, c ∈ [',', ']', '\x7d']

/-- A number whose digits are read back. -/
structure Numeral (digits : List Char) : Prop where
  front : ∃ c rest, digits = c :: rest ∧ (c = '-' ∨ c.isDigit = true)
  read : ∀ rest, Delimited rest → number? (digits ++ rest) = some (digits, rest)
  line : '\n' ∉ digits

mutual

/-- All numbers in the value are read back. -/
def Readable : Json → Prop
  | number digits => Numeral digits.toList
  | array items => ReadableItems items
  | object members => ReadableMembers members
  | null | boolean _ | string _ => True

def ReadableItems : List Json → Prop
  | [] => True
  | item :: rest => Readable item ∧ ReadableItems rest

def ReadableMembers : List (String × Json) → Prop
  | [] => True
  | (_, value) :: rest => Readable value ∧ ReadableMembers rest

end

/-! ## Reading -/

theorem skipSpace_cons {c : Char} (h : isSpace c = false) (cs : List Char) :
    skipSpace (c :: cs) = c :: cs := by
  rw [skipSpace, List.dropWhile_cons_of_neg (by simp [h])]

theorem word?_append (word : String) (rest : List Char) :
    word? word (word.toList ++ rest) = some rest := by
  rw [word?, if_pos (by simp), ← String.length_toList, List.drop_left]

theorem isSpace_of_front {c : Char} (h : c = '-' ∨ c.isDigit = true) : isSpace c = false := by
  rcases h with rfl | h
  · rfl
  · refine Bool.eq_false_iff.2 fun hspace => ?_
    simp only [isSpace, Bool.or_eq_true, beq_iff_eq] at hspace
    rcases hspace with ((rfl | rfl) | rfl) | rfl <;> exact absurd h (by decide)

/-- A value begins with a character that is no space and ends no array. -/
theorem exists_front {v : Json} (h : Readable v) :
    ∃ c cs, compactChars v = c :: cs ∧ isSpace c = false ∧ c ≠ ']' := by
  cases v with
  | null => exact ⟨'n', _, rfl, rfl, by decide⟩
  | boolean value => cases value <;> exact ⟨_, _, rfl, rfl, by decide⟩
  | number digits =>
    obtain ⟨c, rest, hdigits, hc⟩ := Numeral.front h
    refine ⟨c, rest, hdigits, isSpace_of_front hc, ?_⟩
    rintro rfl
    exact absurd hc (by decide)
  | string value => exact ⟨_, _, rfl, rfl, by decide⟩
  | array items => exact ⟨_, _, rfl, rfl, by decide⟩
  | object members => exact ⟨_, _, rfl, rfl, by decide⟩

theorem length_compactChars_pos {v : Json} (h : Readable v) : 0 < (compactChars v).length := by
  obtain ⟨c, cs, hv, -⟩ := exists_front h
  simp [hv]

section Openings

variable (fuel : Nat) (rest : List Char)

theorem value?_null : Raw.value? (fuel + 1) ("null".toList ++ rest) = some (.null, rest) := by
  have hword := word?_append "ull" rest
  change (word? "ull" ("ull".toList ++ rest)).map (Raw.null, ·) = _
  rw [hword]
  rfl

theorem value?_true :
    Raw.value? (fuel + 1) ("true".toList ++ rest) = some (.boolean true, rest) := by
  have hword := word?_append "rue" rest
  change (word? "rue" ("rue".toList ++ rest)).map (Raw.boolean true, ·) = _
  rw [hword]
  rfl

theorem value?_false :
    Raw.value? (fuel + 1) ("false".toList ++ rest) = some (.boolean false, rest) := by
  have hword := word?_append "alse" rest
  change (word? "alse" ("alse".toList ++ rest)).map (Raw.boolean false, ·) = _
  rw [hword]
  rfl

theorem value?_quote (s : String) :
    Raw.value? (fuel + 1) (quote s ++ rest) = some (.string (s.toList.map .ofChar), rest) := by
  have hpieces := readPieces_written s.toList rest
  rw [quote, List.cons_append, List.append_assoc, List.singleton_append]
  change (readPieces _).map (fun (pieces, behind) => (Raw.string pieces, behind)) = _
  rw [hpieces]
  rfl

theorem value?_array {c : Char} {cs : List Char} (hspace : isSpace c = false) (hend : c ≠ ']') :
    Raw.value? (fuel + 1) ('[' :: c :: cs) =
      (Raw.items? fuel (c :: cs)).map fun (items, behind) => (.array items, behind) := by
  rw [Raw.value?, skipSpace_cons rfl]
  simp only [skipSpace_cons hspace]
  split
  next heq => exact absurd (List.cons.inj heq).1 hend
  next => rfl

theorem value?_object (key : String) :
    Raw.value? (fuel + 1) ('\x7b' :: (quote key ++ rest)) =
      (Raw.members? fuel (quote key ++ rest)).map
        fun (members, behind) => (.object members, behind) := rfl

theorem value?_number {digits : List Char} (h : Numeral digits) (hrest : Delimited rest) :
    Raw.value? (fuel + 1) (digits ++ rest) = some (.number digits, rest) := by
  have hread := h.read rest hrest
  obtain ⟨c, cs, rfl, hc⟩ := h.front
  have hopening : ∀ {d : Char}, d ∈ ['n', 't', 'f', '\x22', '[', '\x7b'] → c ≠ d := by
    rintro d hd rfl
    have hnone : ∀ d ∈ ['n', 't', 'f', '\x22', '[', '\x7b'], ¬(d = '-' ∨ d.isDigit = true) := by
      simp
    exact hnone c hd hc
  rw [List.cons_append] at hread ⊢
  rw [Raw.value?, skipSpace_cons (isSpace_of_front hc)]
  split
  next heq => exact absurd (List.cons.inj heq).1 (hopening (by simp))
  next heq => exact absurd (List.cons.inj heq).1 (hopening (by simp))
  next heq => exact absurd (List.cons.inj heq).1 (hopening (by simp))
  next heq => exact absurd (List.cons.inj heq).1 (hopening (by simp))
  next heq => exact absurd (List.cons.inj heq).1 (hopening (by simp))
  next heq => exact absurd (List.cons.inj heq).1 (hopening (by simp))
  next =>
    rw [hread]
    rfl

end Openings

section Entries

variable {fuel : Nat} {cs rest : List Char} {raw : Raw}

theorem items?_last (h : Raw.value? fuel cs = some (raw, ']' :: rest)) :
    Raw.items? (fuel + 1) cs = some ([raw], rest) := by
  have hend : skipSpace (']' :: rest) = ']' :: rest := skipSpace_cons rfl rest
  simp only [Raw.items?, h, Option.bind_eq_bind, Option.bind_some, hend]
  rfl

theorem items?_cons (h : Raw.value? fuel cs = some (raw, ',' :: rest)) :
    Raw.items? (fuel + 1) cs =
      (Raw.items? fuel rest).map fun (items, behind) => (raw :: items, behind) := by
  have hcomma : skipSpace (',' :: rest) = ',' :: rest := skipSpace_cons rfl rest
  simp only [Raw.items?, h, Option.bind_eq_bind, Option.bind_some, hcomma]
  cases Raw.items? fuel rest <;> rfl

theorem word?_quote (key : String) (rest : List Char) :
    word? "\"" (skipSpace (quote key ++ rest)) =
      some (key.toList.flatMap writtenChar ++ '\x22' :: rest) := by
  rw [quote, List.cons_append, List.append_assoc, List.singleton_append, skipSpace_cons rfl]
  exact word?_append "\"" _

theorem word?_colon (cs : List Char) : word? ":" (skipSpace (':' :: cs)) = some cs := by
  rw [skipSpace_cons rfl]
  exact word?_append ":" cs

variable {key : String}

theorem members?_last (h : Raw.value? fuel cs = some (raw, '\x7d' :: rest)) :
    Raw.members? (fuel + 1) (quote key ++ ':' :: cs) =
      some ([(key.toList.map .ofChar, raw)], rest) := by
  have hend : skipSpace ('\x7d' :: rest) = '\x7d' :: rest := skipSpace_cons rfl rest
  simp only [Raw.members?, word?_quote, readPieces_written, word?_colon, h, Option.bind_eq_bind,
    Option.bind_some, hend]
  rfl

theorem members?_cons (h : Raw.value? fuel cs = some (raw, ',' :: rest)) :
    Raw.members? (fuel + 1) (quote key ++ ':' :: cs) =
      (Raw.members? fuel rest).map fun (members, behind) =>
        ((key.toList.map .ofChar, raw) :: members, behind) := by
  have hcomma : skipSpace (',' :: rest) = ',' :: rest := skipSpace_cons rfl rest
  simp only [Raw.members?, word?_quote, readPieces_written, word?_colon, h, Option.bind_eq_bind,
    Option.bind_some, hcomma]
  cases Raw.members? fuel rest <;> rfl

end Entries

/-- The entries of an array begin with a character that is no space and ends no array. -/
theorem exists_front_items {item : Json} (h : Readable item) (items : List Json) :
    ∃ c cs, compactItems (item :: items) = c :: cs ∧ isSpace c = false ∧ c ≠ ']' := by
  obtain ⟨c, cs, hitem, hspace, hend⟩ := exists_front h
  cases items with
  | nil => exact ⟨c, cs, by rw [compactItems, hitem], hspace, hend⟩
  | cons next items =>
    refine ⟨c, cs ++ ',' :: compactItems (next :: items), ?_, hspace, hend⟩
    rw [compactItems, hitem, List.cons_append]
    exact List.cons_ne_nil _ _

/-- The members of an object begin with the key of the first one. -/
theorem exists_key_members (key : String) (value : Json) (members : List (String × Json)) :
    ∃ cs, compactMembers ((key, value) :: members) = quote key ++ cs := by
  cases members with
  | nil => exact ⟨_, rfl⟩
  | cons next members =>
    refine ⟨':' :: (compactChars value ++ ',' :: compactMembers (next :: members)), ?_⟩
    rw [compactMembers]
    exact List.cons_ne_nil _ _

mutual

theorem value?_compactChars : ∀ (v : Json) (fuel : Nat) (rest : List Char), Readable v →
    Delimited rest → (compactChars v).length ≤ fuel →
      Raw.value? fuel (compactChars v ++ rest) = some (toRaw v, rest)
  | null, fuel + 1, rest, _, _, _ => value?_null fuel rest
  | boolean true, fuel + 1, rest, _, _, _ => value?_true fuel rest
  | boolean false, fuel + 1, rest, _, _, _ => value?_false fuel rest
  | number _, fuel + 1, rest, h, hrest, _ => value?_number fuel rest h hrest
  | string value, fuel + 1, rest, _, _, _ => value?_quote fuel rest value
  | array [], fuel + 1, rest, _, _, _ => rfl
  | array (item :: items), fuel + 1, rest, h, _, hfuel => by
    have hitems := items?_compactItems item items fuel rest h (by
      simp only [compactChars, List.length_cons, List.length_append, List.length_nil] at hfuel
      omega)
    obtain ⟨c, cs, hfront, hspace, hend⟩ := exists_front_items h.1 items
    rw [compactChars, List.cons_append, List.append_assoc, List.singleton_append]
    rw [hfront, List.cons_append] at hitems ⊢
    rw [value?_array fuel hspace hend, hitems]
    rfl
  | object [], fuel + 1, rest, _, _, _ => rfl
  | object ((key, value) :: members), fuel + 1, rest, h, _, hfuel => by
    have hmembers := members?_compactMembers key value members fuel rest h (by
      simp only [compactChars, List.length_cons, List.length_append, List.length_nil] at hfuel
      omega)
    obtain ⟨cs, hfront⟩ := exists_key_members key value members
    rw [compactChars, List.cons_append, List.append_assoc, List.singleton_append]
    rw [hfront, List.append_assoc] at hmembers ⊢
    rw [value?_object, hmembers]
    rfl
  | v, 0, rest, h, _, hfuel => by
    have hpos := length_compactChars_pos h
    omega

theorem items?_compactItems : ∀ (item : Json) (items : List Json) (fuel : Nat) (rest : List Char),
    ReadableItems (item :: items) → (compactItems (item :: items)).length + 1 ≤ fuel →
      Raw.items? fuel (compactItems (item :: items) ++ ']' :: rest) =
        some (rawItems (item :: items), rest)
  | item, [], fuel + 1, rest, h, hfuel =>
    items?_last (value?_compactChars item fuel (']' :: rest) h.1 (by simp [Delimited])
      (by simpa [compactItems] using hfuel))
  | item, next :: items, fuel + 1, rest, h, hfuel => by
    have hpos := length_compactChars_pos h.1
    simp only [compactItems, List.length_append, List.length_cons] at hfuel
    have hitem := value?_compactChars item fuel
      (',' :: (compactItems (next :: items) ++ ']' :: rest)) h.1 (by simp [Delimited]) (by omega)
    rw [compactItems, List.append_assoc, List.cons_append, items?_cons hitem,
      items?_compactItems next items fuel rest h.2 (by omega)]
    · rfl
    · exact List.cons_ne_nil _ _

theorem members?_compactMembers : ∀ (key : String) (value : Json) (members : List (String × Json))
    (fuel : Nat) (rest : List Char), ReadableMembers ((key, value) :: members) →
      (compactMembers ((key, value) :: members)).length + 1 ≤ fuel →
        Raw.members? fuel (compactMembers ((key, value) :: members) ++ '\x7d' :: rest) =
          some (rawMembers ((key, value) :: members), rest)
  | key, value, [], fuel + 1, rest, h, hfuel => by
    simp only [compactMembers, List.length_append, List.length_cons] at hfuel
    have hvalue := value?_compactChars value fuel ('\x7d' :: rest) h.1 (by simp [Delimited])
      (by omega)
    rw [compactMembers, List.append_assoc, List.cons_append, members?_last hvalue]
    rfl
  | key, value, (nextKey, nextValue) :: members, fuel + 1, rest, h, hfuel => by
    simp only [compactMembers, List.length_append, List.length_cons] at hfuel
    have hvalue := value?_compactChars value fuel
      (',' :: (compactMembers ((nextKey, nextValue) :: members) ++ '\x7d' :: rest)) h.1
      (by simp [Delimited]) (by omega)
    rw [compactMembers, List.append_assoc, List.cons_append, List.append_assoc, List.cons_append,
      members?_cons hvalue, members?_compactMembers nextKey nextValue members fuel rest h.2
        (by omega)]
    · rfl
    · exact List.cons_ne_nil _ _

end

/-- A value that is written on one line is read back. -/
theorem read?_compact {v : Json} (h : Readable v) : Raw.read? v.compact = some (toRaw v) := by
  have hlength : v.compact.length = (compactChars v).length := by simp [compact]
  have hread := value?_compactChars v (v.compact.length + 1) [] h (by simp [Delimited])
    (by omega)
  rw [List.append_nil] at hread
  rw [Raw.read?, compact, String.toList_ofList, ← compact, hread]
  rfl

/-! ## Lines -/

theorem newline_not_mem_quote (s : String) : '\n' ∉ quote s := by
  intro hmem
  have hchars : '\n' ∈ s.toList.flatMap writtenChar := by simpa [quote] using hmem
  obtain ⟨c, -, hc⟩ := List.mem_flatMap.1 hchars
  exact (writtenAs_writtenChar c).newline_not_mem hc

mutual

theorem newline_not_mem_compactChars : ∀ v : Json, Readable v → '\n' ∉ compactChars v
  | null, _ => by decide
  | boolean true, _ => by decide
  | boolean false, _ => by decide
  | number _, h => Numeral.line h
  | string value, _ => newline_not_mem_quote value
  | array items, h => by
    have hitems := newline_not_mem_compactItems items h
    simp [compactChars, hitems]
  | object members, h => by
    have hmembers := newline_not_mem_compactMembers members h
    simp [compactChars, hmembers]

theorem newline_not_mem_compactItems : ∀ items : List Json, ReadableItems items →
    '\n' ∉ compactItems items
  | [], _ => by simp [compactItems]
  | [item], h => newline_not_mem_compactChars item h.1
  | item :: next :: items, h => by
    have hitem := newline_not_mem_compactChars item h.1
    have hitems := newline_not_mem_compactItems (next :: items) h.2
    simp [compactItems, hitem, hitems]

theorem newline_not_mem_compactMembers : ∀ members : List (String × Json),
    ReadableMembers members → '\n' ∉ compactMembers members
  | [], _ => by simp [compactMembers]
  | [(key, value)], h => by
    have hkey := newline_not_mem_quote key
    have hvalue := newline_not_mem_compactChars value h.1
    simp [compactMembers, hkey, hvalue]
  | (key, value) :: next :: members, h => by
    have hkey := newline_not_mem_quote key
    have hvalue := newline_not_mem_compactChars value h.1
    have hmembers := newline_not_mem_compactMembers (next :: members) h.2
    simp [compactMembers, hkey, hvalue, hmembers]

end

/-- A value that is written on one line stays on that line. -/
theorem newline_not_mem_compact {v : Json} (h : Readable v) : '\n' ∉ v.compact.toList := by
  rw [compact, String.toList_ofList]
  exact newline_not_mem_compactChars v h

end SubmissionGrader.Json
