import SubmissionGrader.Proofs.Lists
import SubmissionGrader.Syntax.Identifier

/-!
# The language of identifiers

A valid identifier is a sequence of units, possibly an empty one: `isValid_iff_units`. The check
reads one unit after the other (`accepts_cons_iff`). No unit begins another one
(`IsUnit.eq_of_append`), so a word has at most one such sequence, and a word that ends within a unit
has none.
-/

namespace SubmissionGrader.Syntax.Identifier

open Text (isAlphanumeric)

/-! ## Units -/

def hexDigits : List Char :=
  ['0', '1', '2', '3', '4', '5', '6', '7', '8', '9', 'a', 'b', 'c', 'd', 'e', 'f', 'A', 'B', 'C',
    'D', 'E', 'F']

def marks : List Char := ['$', '_', '-', '\u200c', '\u200d']

/-- A unit of an identifier: a character, or an escape with four digits or with digits in braces. -/
inductive IsUnit : List Char → Prop
  | alphanumeric {c : Char} (h : isAlphanumeric c = true) : IsUnit [c]
  | mark {c : Char} (h : c ∈ marks) : IsUnit [c]
  | escape {digits : List Char} (hlength : digits.length = 4) (h : ∀ d ∈ digits, d ∈ hexDigits) :
      IsUnit ('\\' :: 'u' :: digits)
  | braces {digits : List Char} (hne : digits ≠ []) (h : ∀ d ∈ digits, d ∈ hexDigits) :
      IsUnit ('\\' :: 'u' :: '{' :: (digits ++ ['}']))

section Characters

variable {c : Char}

theorem isHexDigit_iff : isHexDigit c = true ↔ c ∈ hexDigits := by
  have hall : ∀ n < 128, isHexDigit (Char.ofNat n) = true → Char.ofNat n ∈ hexDigits := by decide
  constructor
  · intro h
    have hlt : c.toNat < 128 := by
      simp only [isHexDigit, Char.isDigit, Bool.or_eq_true, Bool.and_eq_true, decide_eq_true_eq,
        Char.le_def, ge_iff_le, UInt32.le_iff_toNat_le, Char.toNat_val, Char.reduceToNat] at h
      omega
    have hc := hall c.toNat hlt
    rw [Char.ofNat_toNat] at hc
    exact hc h
  · exact List.all_eq_true.1 (by decide : hexDigits.all isHexDigit = true) c

theorem isPlain_iff : isPlain c = true ↔ isAlphanumeric c = true ∨ c ∈ marks := by
  simp only [isPlain, marks, Bool.or_eq_true, beq_iff_eq, List.mem_cons, List.not_mem_nil, or_false,
    or_assoc]

theorem ne_backslash_of_isPlain (h : isPlain c = true) : c ≠ '\\' := by
  rintro rfl
  exact absurd h (by decide +kernel)

theorem brace_not_mem {digits : List Char} (h : ∀ d ∈ digits, d ∈ hexDigits) : '}' ∉ digits :=
  fun hmem => absurd (h _ hmem) (by decide)

/-- A unit is a plain character, or begins with a backslash. -/
theorem IsUnit.isPlain_or_backslash {u : List Char} (h : IsUnit u) :
    (∃ c, u = [c] ∧ isPlain c = true) ∨ ∃ w, u = '\\' :: 'u' :: w := by
  cases h with
  | alphanumeric h => exact .inl ⟨_, rfl, isPlain_iff.2 (.inl h)⟩
  | mark h => exact .inl ⟨_, rfl, isPlain_iff.2 (.inr h)⟩
  | escape => exact .inr ⟨_, rfl⟩
  | braces => exact .inr ⟨_, rfl⟩

theorem IsUnit.length_pos {u : List Char} (h : IsUnit u) : 0 < u.length := by
  rcases h.isPlain_or_backslash with ⟨c, rfl, -⟩ | ⟨w, rfl⟩
  · exact Nat.zero_lt_succ 0
  · exact Nat.zero_lt_succ _

theorem isUnit_of_isPlain (h : isPlain c = true) : IsUnit [c] := by
  rcases isPlain_iff.1 h with h | h
  · exact .alphanumeric h
  · exact .mark h

end Characters

/-! ## Reading a unit -/

theorem accepts_plain {c : Char} (h : isPlain c = true) (rest : List Char) :
    accepts .between (c :: rest) = accepts .between rest := by
  have hc : (c == '\\') = false := beq_eq_false_iff_ne.2 (ne_backslash_of_isPlain h)
  simp only [accepts, next, hc, h, Bool.false_eq_true, if_false, if_true]

theorem accepts_digits_cons (n : Nat) (c : Char) (rest : List Char) :
    accepts (.digits (n + 1)) (c :: rest) =
      (isHexDigit c && accepts (if n = 0 then .between else .digits n) rest) := by
  by_cases hc : isHexDigit c = true
  · simp [accepts, next, hc]
  · simp [accepts, next, hc]

/-- Behind some digits of an escape the others stand, and then the word goes on. -/
theorem accepts_digits_iff {n : Nat} {cs : List Char} :
    accepts (.digits (n + 1)) cs = true ↔
      ∃ digits rest, cs = digits ++ rest ∧ digits.length = n + 1 ∧ (∀ d ∈ digits, d ∈ hexDigits) ∧
        accepts .between rest = true := by
  induction n generalizing cs with
  | zero =>
    cases cs with
    | nil => simp [accepts]
    | cons c cs =>
      rw [accepts_digits_cons, if_pos rfl, Bool.and_eq_true, isHexDigit_iff]
      constructor
      · rintro ⟨hc, hrest⟩
        exact ⟨[c], cs, rfl, rfl, by simpa using hc, hrest⟩
      · rintro ⟨digits, rest, heq, hlength, hdigits, hrest⟩
        obtain ⟨d, rfl⟩ := List.length_eq_one_iff.1 hlength
        obtain ⟨rfl, rfl⟩ := List.cons.inj heq
        exact ⟨hdigits c (by simp), hrest⟩
  | succ n ih =>
    cases cs with
    | nil => simp [accepts]
    | cons c cs =>
      rw [accepts_digits_cons, if_neg (Nat.succ_ne_zero n), Bool.and_eq_true, isHexDigit_iff, ih]
      constructor
      · rintro ⟨hc, digits, rest, rfl, hlength, hdigits, hrest⟩
        exact ⟨c :: digits, rest, rfl, by simp [hlength], List.forall_mem_cons.2 ⟨hc, hdigits⟩,
          hrest⟩
      · rintro ⟨digits, rest, heq, hlength, hdigits, hrest⟩
        obtain ⟨d, digits, rfl⟩ := List.exists_cons_of_length_eq_add_one hlength
        obtain ⟨rfl, rfl⟩ := List.cons.inj heq
        obtain ⟨hc, hdigits⟩ := List.forall_mem_cons.1 hdigits
        exact ⟨hc, digits, rest, rfl, by simpa using hlength, hdigits, hrest⟩

theorem accepts_braces_cons (nonempty : Bool) (c : Char) (rest : List Char) :
    accepts (.braces nonempty) (c :: rest) =
      if c = '}' ∧ nonempty = true then accepts .between rest
      else isHexDigit c && accepts (.braces true) rest := by
  by_cases hend : c = '}' ∧ nonempty = true
  · simp [accepts, next, hend]
  · by_cases hc : isHexDigit c = true
    · simp [accepts, next, hend, hc]
    · simp [accepts, next, hend, hc]

/-- Within braces more digits stand, at least one in all, and behind the closing brace the word goes
on. -/
theorem accepts_braces_iff {nonempty : Bool} {cs : List Char} :
    accepts (.braces nonempty) cs = true ↔
      ∃ digits rest, cs = digits ++ '}' :: rest ∧ (nonempty = true ∨ digits ≠ []) ∧
        (∀ d ∈ digits, d ∈ hexDigits) ∧ accepts .between rest = true := by
  induction cs generalizing nonempty with
  | nil => simp [accepts]
  | cons c cs ih =>
    rw [accepts_braces_cons]
    split
    next hend =>
      obtain ⟨rfl, hnonempty⟩ := hend
      constructor
      · intro hrest
        exact ⟨[], cs, rfl, .inl hnonempty, by simp, hrest⟩
      · rintro ⟨digits, rest, heq, -, hdigits, hrest⟩
        cases digits with
        | nil =>
          obtain ⟨-, rfl⟩ := List.cons.inj heq
          exact hrest
        | cons d digits =>
          obtain ⟨rfl, -⟩ := List.cons.inj heq
          exact absurd List.mem_cons_self (brace_not_mem hdigits)
    next hend =>
      rw [Bool.and_eq_true, isHexDigit_iff, ih]
      constructor
      · rintro ⟨hc, digits, rest, rfl, -, hdigits, hrest⟩
        exact ⟨c :: digits, rest, rfl, .inr (List.cons_ne_nil c digits),
          List.forall_mem_cons.2 ⟨hc, hdigits⟩, hrest⟩
      · rintro ⟨digits, rest, heq, hsome, hdigits, hrest⟩
        cases digits with
        | nil =>
          obtain ⟨rfl, -⟩ := List.cons.inj heq
          exact absurd ⟨rfl, hsome.resolve_right fun hne => hne rfl⟩ hend
        | cons d digits =>
          obtain ⟨rfl, rfl⟩ := List.cons.inj heq
          obtain ⟨hc, hdigits⟩ := List.forall_mem_cons.1 hdigits
          exact ⟨hc, digits, rest, rfl, .inl rfl, hdigits, hrest⟩

theorem accepts_mark_cons (c : Char) (rest : List Char) :
    accepts .mark (c :: rest) =
      if c = '{' then accepts (.braces false) rest else accepts (.digits 4) (c :: rest) := by
  by_cases hc : c = '{'
  · simp [accepts, next, hc]
  · by_cases hdigit : isHexDigit c = true
    · simp [accepts, next, hc, hdigit]
    · simp [accepts, next, hc, hdigit]

theorem accepts_backslash_cons (c : Char) (rest : List Char) :
    accepts .backslash (c :: rest) = (c == 'u' && accepts .mark rest) := by
  by_cases hc : c = 'u'
  · simp [accepts, next, hc]
  · simp [accepts, next, hc]

/-- Behind a backslash the rest of an escape stands, and then the word goes on. -/
theorem accepts_backslash_iff {cs : List Char} :
    accepts .backslash cs = true ↔
      ∃ w rest, cs = w ++ rest ∧ IsUnit ('\\' :: w) ∧ accepts .between rest = true := by
  constructor
  · intro h
    obtain ⟨c, cs, rfl⟩ : ∃ c rest, cs = 'u' :: c :: rest := by
      match cs with
      | [] => cases h
      | [d] =>
        rw [accepts_backslash_cons, Bool.and_eq_true] at h
        exact absurd h.2 Bool.false_ne_true
      | d :: c :: rest =>
        rw [accepts_backslash_cons, Bool.and_eq_true, beq_iff_eq] at h
        exact ⟨c, rest, by rw [h.1]⟩
    rw [accepts_backslash_cons, beq_self_eq_true, Bool.true_and, accepts_mark_cons] at h
    split at h
    next hc =>
      obtain ⟨digits, rest, rfl, hsome, hdigits, hrest⟩ := accepts_braces_iff.1 h
      have hne := hsome.resolve_left Bool.false_ne_true
      exact ⟨'u' :: '{' :: (digits ++ ['}']), rest, by simp [hc], .braces hne hdigits, hrest⟩
    next =>
      obtain ⟨digits, rest, heq, hlength, hdigits, hrest⟩ := accepts_digits_iff.1 h
      exact ⟨'u' :: digits, rest, by rw [heq, List.cons_append], .escape hlength hdigits, hrest⟩
  · rintro ⟨w, rest, rfl, hunit, hrest⟩
    cases hunit with
    | alphanumeric h => exact absurd rfl (ne_backslash_of_isPlain (isPlain_iff.2 (.inl h)))
    | mark h => exact absurd rfl (ne_backslash_of_isPlain (isPlain_iff.2 (.inr h)))
    | @escape digits hlength hdigits =>
      obtain ⟨c, digits, rfl⟩ := List.exists_cons_of_length_eq_add_one hlength
      have hc : c ≠ '{' := by
        rintro rfl
        exact absurd (hdigits _ List.mem_cons_self) (by decide)
      rw [List.cons_append, accepts_backslash_cons, beq_self_eq_true, Bool.true_and,
        List.cons_append, accepts_mark_cons, if_neg hc]
      exact accepts_digits_iff.2 ⟨c :: digits, rest, rfl, hlength, hdigits, hrest⟩
    | @braces digits hne hdigits =>
      rw [List.cons_append, accepts_backslash_cons, beq_self_eq_true, Bool.true_and,
        List.cons_append, accepts_mark_cons, if_pos rfl]
      exact accepts_braces_iff.2 ⟨digits, rest, by simp, .inr hne, hdigits, hrest⟩

/-- A word with anything in it begins with a unit, and what stands behind it is valid as well. -/
theorem accepts_cons_iff {c : Char} {cs : List Char} :
    accepts .between (c :: cs) = true ↔
      ∃ u rest, c :: cs = u ++ rest ∧ IsUnit u ∧ accepts .between rest = true := by
  by_cases hc : c = '\\'
  · subst hc
    rw [show accepts .between ('\\' :: cs) = accepts .backslash cs from rfl, accepts_backslash_iff]
    constructor
    · rintro ⟨w, rest, rfl, hunit, hrest⟩
      exact ⟨'\\' :: w, rest, rfl, hunit, hrest⟩
    · rintro ⟨u, rest, heq, hunit, hrest⟩
      rcases hunit.isPlain_or_backslash with ⟨d, rfl, hd⟩ | ⟨w, rfl⟩
      · obtain ⟨rfl, -⟩ := List.cons.inj heq
        exact absurd rfl (ne_backslash_of_isPlain hd)
      · exact ⟨'u' :: w, rest, (List.cons.inj heq).2, hunit, hrest⟩
  · constructor
    · intro h
      by_cases hplain : isPlain c = true
      · rw [accepts_plain hplain] at h
        exact ⟨[c], cs, rfl, isUnit_of_isPlain hplain, h⟩
      · simp [accepts, next, hc, hplain] at h
    · rintro ⟨u, rest, heq, hunit, hrest⟩
      rcases hunit.isPlain_or_backslash with ⟨d, rfl, hd⟩ | ⟨w, rfl⟩
      · obtain ⟨rfl, rfl⟩ := List.cons.inj heq
        rwa [accepts_plain hd]
      · exact absurd (List.cons.inj heq).1 hc

/-! ## Sequences of units -/

def AreUnits (cs : List Char) : Prop :=
  ∃ units : List (List Char), (∀ u ∈ units, IsUnit u) ∧ units.flatten = cs

theorem accepts_between_iff {cs : List Char} : accepts .between cs = true ↔ AreUnits cs := by
  constructor
  · intro h
    induction hn : cs.length using Nat.strongRecOn generalizing cs with
    | _ n ih =>
      cases cs with
      | nil => exact ⟨[], by simp, rfl⟩
      | cons c cs =>
        obtain ⟨u, rest, heq, hunit, hrest⟩ := accepts_cons_iff.1 h
        have hlt : rest.length < n := by
          have hpos := hunit.length_pos
          rw [← hn, heq, List.length_append]
          omega
        obtain ⟨units, hunits, rfl⟩ := ih rest.length hlt hrest rfl
        exact ⟨u :: units, List.forall_mem_cons.2 ⟨hunit, hunits⟩, heq.symm⟩
  · rintro ⟨units, hunits, rfl⟩
    induction units with
    | nil => rfl
    | cons u units ih =>
      obtain ⟨hunit, htail⟩ := List.forall_mem_cons.1 hunits
      obtain ⟨c, w, hu⟩ := List.exists_cons_of_length_pos hunit.length_pos
      rw [List.flatten_cons, hu, List.cons_append]
      exact accepts_cons_iff.2 ⟨u, units.flatten, by rw [hu, List.cons_append], hunit, ih htail⟩

/-! ## Words that end within a unit -/

theorem append_ne_brace_cons {digits : List Char} (hlength : digits.length = 4)
    (h : ∀ d ∈ digits, d ∈ hexDigits) (cs rest : List Char) : digits ++ rest ≠ '{' :: cs := by
  obtain ⟨d, digits, rfl⟩ := List.exists_cons_of_length_eq_add_one hlength
  intro heq
  obtain ⟨rfl, -⟩ := List.cons.inj heq
  exact absurd (h _ List.mem_cons_self) (by decide)

/-- No unit begins another one. -/
theorem IsUnit.eq_of_append {u v rest rest' : List Char} (hu : IsUnit u) (hv : IsUnit v)
    (h : u ++ rest = v ++ rest') : u = v := by
  -- A plain character is no backslash, so both are plain or both are escapes.
  rcases hu.isPlain_or_backslash with ⟨c, rfl, hc⟩ | ⟨w, rfl⟩
  · rcases hv.isPlain_or_backslash with ⟨d, rfl, -⟩ | ⟨w, rfl⟩
    · rw [(List.cons.inj h).1]
    · exact absurd (List.cons.inj h).1 (ne_backslash_of_isPlain hc)
  · rcases hv.isPlain_or_backslash with ⟨d, rfl, hd⟩ | ⟨w', rfl⟩
    · exact absurd (List.cons.inj h).1.symm (ne_backslash_of_isPlain hd)
    · have htail : w ++ rest = w' ++ rest' := (List.cons.inj (List.cons.inj h).2).2
      cases hu with
      | escape hlength hdigits =>
        cases hv with
        | escape hlength' hdigits' =>
          rw [(List.append_inj htail (hlength.trans hlength'.symm)).1]
        | braces hne' hdigits' => exact absurd htail (append_ne_brace_cons hlength hdigits _ _)
      | @braces digits hne hdigits =>
        cases hv with
        | escape hlength' hdigits' =>
          exact absurd htail.symm (append_ne_brace_cons hlength' hdigits' _ _)
        | @braces digits' hne' hdigits' =>
          have hends {ds : List Char} (hds : ∀ d ∈ ds, d ∈ hexDigits) (cs : List Char) :
              (ds ++ '}' :: cs).takeWhile (· != '}') = ds := by
            refine Lists.takeWhile_append_eq (fun d hd => bne_iff_ne.2 ?_) (by simp)
            rintro rfl
            exact brace_not_mem hds hd
          have heq : digits ++ '}' :: rest = digits' ++ '}' :: rest' := by simpa using htail
          rw [← hends hdigits rest, heq, hends hdigits']

/-- Behind some units, what makes the characters a sequence of units is one itself. -/
theorem areUnits_of_append {units : List (List Char)} (hunits : ∀ u ∈ units, IsUnit u)
    {cs : List Char} (h : AreUnits (units.flatten ++ cs)) : AreUnits cs := by
  induction units with
  | nil => exact h
  | cons u units ih =>
    obtain ⟨hunit, htail⟩ := List.forall_mem_cons.1 hunits
    obtain ⟨all, hall, heq⟩ := h
    rw [List.flatten_cons, List.append_assoc] at heq
    cases all with
    | nil =>
      have hpos := hunit.length_pos
      have hlength := congrArg List.length heq
      simp only [List.flatten_nil, List.length_nil, List.length_append] at hlength
      omega
    | cons v all =>
      obtain ⟨hv, hall⟩ := List.forall_mem_cons.1 hall
      obtain rfl := hv.eq_of_append hunit heq
      exact ih htail ⟨all, hall, List.append_cancel_left heq⟩

/-- A unit that is cut off is no sequence of units. -/
theorem not_areUnits_of_cut {u cut : List Char} (hunit : IsUnit u) (hcut : cut <+: u)
    (hnil : cut ≠ []) (hne : cut ≠ u) : ¬AreUnits cut := by
  rintro ⟨units, hunits, rfl⟩
  obtain ⟨rest, heq⟩ := hcut
  cases units with
  | nil => exact hnil rfl
  | cons v units =>
    have hv := hunits v List.mem_cons_self
    rw [List.flatten_cons, List.append_assoc] at heq
    obtain rfl := hv.eq_of_append hunit (heq.trans (List.append_nil u).symm)
    have hrest := List.append_cancel_left (heq.trans (List.append_nil v).symm)
    exact hne (by rw [List.flatten_cons, (List.append_eq_nil_iff.1 hrest).1, List.append_nil])

/-- A valid identifier is a sequence of units, possibly an empty one. A word that ends within a unit
is none. -/
theorem isValid_iff_units (word : String) :
    (isValid word = true ↔
      ∃ units : List (List Char), (∀ u ∈ units, IsUnit u) ∧ units.flatten = word.toList) ∧
    ∀ (units : List (List Char)) (u cut : List Char), (∀ v ∈ units, IsUnit v) → IsUnit u →
      cut <+: u → cut ≠ [] → cut ≠ u → word.toList = units.flatten ++ cut →
        isValid word = false := by
  refine ⟨accepts_between_iff, fun units u cut hunits hunit hcut hnil hne hword => ?_⟩
  rw [Bool.eq_false_iff]
  intro hvalid
  have hall := accepts_between_iff.1 hvalid
  rw [hword] at hall
  exact not_areUnits_of_cut hunit hcut hnil hne (areUnits_of_append hunits hall)

end SubmissionGrader.Syntax.Identifier
