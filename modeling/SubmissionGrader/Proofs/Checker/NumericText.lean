import SubmissionGrader.Proofs.Checker.Comparisons
import SubmissionGrader.Proofs.Checker.Lexemes
import SubmissionGrader.Proofs.Number.Decimal

/-!
# Texts and their numbers

`textNumber_ne_nan_iff` lists the texts that have a number: nothing, `Infinity` and decimals, and
beyond these the other words for an infinite number (`IsForeignInfinity`). All comparisons of a text
without a number with numbers are false but the inequality (`textNumber_eq_nan_iff`).

In the other direction a finite number is written with its shortest digits, from which it is read
back (`textNumber_text`), or as an integer of 64 bits if it is whole and below `10 ^ 21`. Integers
beyond those of 64 bits are written as the last of these, so that such a number is read back as
`2 ^ 63` (`textNumber_clamped_equals_iff`).
-/

namespace SubmissionGrader

theorem Text.trimChars_eq_self {cs : List Char} (h : ∀ c ∈ cs, isBlank c = false) :
    trimChars cs = cs := by
  have hkept {ds : List Char} (hds : ∀ c ∈ ds, isBlank c = false) : ds.dropWhile isBlank = ds := by
    cases ds with
    | nil => rfl
    | cons d ds => exact List.dropWhile_cons_of_neg (by simp [hds d])
  have hreverse : ∀ c ∈ cs.reverse, isBlank c = false := fun c hc => h c (List.mem_reverse.1 hc)
  rw [trimChars, dropBlanks, hkept h, hkept hreverse, List.reverse_reverse]

namespace Checker

open Binary64 Value Comparison

/-! ## The number of a text -/

/-- The words for infinite numbers are read as any other number. -/
theorem textNumber_eq (s : String) : textNumber s =
    if Text.trim s = "" then .zero else (ofText? (Text.trim s).toList).getD .nan := by
  unfold textNumber
  split
  next h => rw [h, if_pos rfl]
  next h =>
    rw [h]
    decide +kernel
  next h =>
    rw [h]
    decide +kernel
  next h =>
    rw [h]
    decide +kernel
  next h _ _ _ => rw [if_neg h]

/-- The forms of texts that stand for numbers, but for white space around them: nothing, the word
`Infinity`, and decimals, the latter two with an optional sign. -/
inductive IsNumeric : List Char → Prop
  | nothing : IsNumeric []
  | infinity {negative : Bool} {sign : List Char} (hsign : IsSign negative sign) :
      IsNumeric (sign ++ "Infinity".toList)
  | decimal {negative : Bool} {sign cs : List Char} {d : Decimal} (hsign : IsSign negative sign)
      (h : d.IsWritten cs) : IsNumeric (sign ++ cs)

/-- The characters are a word for an infinite number that is not spelled `Infinity`, with an
optional sign. -/
def IsForeignInfinity (cs : List Char) : Prop :=
  ∃ negative sign word, IsSign negative sign ∧ cs = sign ++ word ∧ IsInfinityWord word ∧
    word ≠ "Infinity".toList

theorem isInfinityWord_infinity : IsInfinityWord "Infinity".toList := .inr (by decide +kernel)

theorem IsForeignInfinity.not_isNumeric {cs : List Char} (h : IsForeignInfinity cs) :
    ¬IsNumeric cs := by
  obtain ⟨negative, sign, word, hsign, rfl, hword, hne⟩ := h
  have hhead := hword.head
  intro hnumeric
  generalize hcs : sign ++ word = cs at hnumeric
  cases hnumeric with
  | nothing =>
    rw [(List.append_eq_nil_iff.1 hcs).2] at hword
    exact absurd hword (by simp [IsInfinityWord, lowered])
  | infinity hsign' =>
    exact hne (hsign.append_inj hsign' hhead isInfinityWord_infinity.head hcs).2
  | decimal hsign' hd =>
    have heq := (hsign.append_inj hsign' hhead hd.head hcs).2
    exact hd.not_isInfinityWord (heq ▸ hword)

theorem textNumber_ne_nan_iff (s : String) : textNumber s ≠ .nan ↔
    IsNumeric (Text.trim s).toList ∨ IsForeignInfinity (Text.trim s).toList := by
  rw [textNumber_eq]
  generalize Text.trim s = trimmed
  split
  next h =>
    subst h
    exact iff_of_true (by decide) (.inl .nothing)
  next h =>
    have hread : (ofText? trimmed.toList).getD .nan ≠ .nan ↔
        ∃ n, ofText? trimmed.toList = some n ∧ n ≠ .nan := by
      cases ofText? trimmed.toList <;> simp
    rw [hread, exists_ofText?_iff]
    constructor
    · rintro ⟨negative, sign, word, hsign, hcs, hinfinity | ⟨d, hd⟩⟩
      · by_cases hword : word = "Infinity".toList
        · rw [hcs, hword]
          exact .inl (.infinity hsign)
        · exact .inr ⟨negative, sign, word, hsign, hcs, hinfinity, hword⟩
      · rw [hcs]
        exact .inl (.decimal hsign hd)
    · rintro (hnumeric | ⟨negative, sign, word, hsign, hcs, hinfinity, -⟩)
      · generalize hcs : trimmed.toList = cs at hnumeric
        cases hnumeric with
        | nothing => exact absurd (String.toList_eq_nil_iff.1 hcs) h
        | infinity hsign => exact ⟨_, _, _, hsign, rfl, .inl isInfinityWord_infinity⟩
        | decimal hsign hd => exact ⟨_, _, _, hsign, rfl, .inr ⟨_, hd⟩⟩
      · exact ⟨negative, sign, word, hsign, hcs, .inl hinfinity⟩

/-- The comparisons that are false for every number and the text are those of a text without a
number. -/
theorem textNumber_eq_nan_iff (s : String) : textNumber s = .nan ↔
    ∀ n, ∀ comparison ∈ equal :: orders, comparison.holds (text s) (number n) = false ∧
      comparison.holds (number n) (text s) = false := by
  constructor
  · intro h n comparison hmem
    have hequals : (textNumber s).equals n = false := by
      rw [h]
      rfl
    have hnan : (text s).toNumber = .nan ∨ (number n).toNumber = .nan := .inl h
    have hnone : (text s).compare? (number n) = none :=
      compare?_eq_none_iff.2 ⟨nofun, hnan⟩
    have hnone' : (number n).compare? (text s) = none :=
      compare?_eq_none_iff.2 ⟨nofun, hnan.symm⟩
    rcases List.mem_cons.1 hmem with rfl | hmem
    · exact ⟨hequals, hequals⟩
    · exact ⟨orders_eq_false_iff.2 hnone comparison hmem,
        orders_eq_false_iff.2 hnone' comparison hmem⟩
  · intro h
    by_contra hne
    have hequals : (textNumber s).equals (textNumber s) = true := Binary64.equals_self_iff.2 hne
    have hfalse := (h (textNumber s) equal List.mem_cons_self).1
    exact absurd hequals (ne_true_of_eq_false hfalse)

/-- A text has a number exactly if, but for white space around it, it has one of the forms of
numeric texts or is a word for an infinite number that is not spelled as in those. The texts without
a number are those for which all comparisons with numbers are false but the inequality. -/
theorem text_denotes_number_iff (s : String) :
    (textNumber s ≠ .nan ↔
      IsNumeric (Text.trim s).toList ∨ IsForeignInfinity (Text.trim s).toList) ∧
    ¬(IsNumeric (Text.trim s).toList ∧ IsForeignInfinity (Text.trim s).toList) ∧
    (textNumber s = .nan ↔ ∀ n, ∀ comparison ∈ equal :: orders,
      comparison.holds (text s) (number n) = false ∧
        comparison.holds (number n) (text s) = false) :=
  ⟨textNumber_ne_nan_iff s, fun h => h.2.not_isNumeric h.1, textNumber_eq_nan_iff s⟩

theorem foreign_infinity_denotes_number :
    textNumber "inf" ≠ .nan ∧ ¬IsNumeric (Text.trim "inf").toList ∧
      greater.holds (text "inf") (number (.ofNat 1)) = true := by
  have htrim : (Text.trim "inf").toList = "inf".toList := by decide +kernel
  have hforeign : IsForeignInfinity "inf".toList :=
    ⟨false, [], _, .absent, rfl, .inl (by decide +kernel), by decide⟩
  refine ⟨by decide +kernel, ?_, by decide +kernel⟩
  rw [htrim]
  exact hforeign.not_isNumeric

/-! ## The text of a number -/

section Written

variable {negative : Bool} {x : Magnitude}

theorem textNumber_of_isWritten {s : String} {sign cs : List Char} {d : Decimal}
    (hsign : IsSign negative sign) (h : d.IsWritten cs) (hs : s.toList = sign ++ cs) :
    textNumber s = ofMagnitude? negative d.toMagnitude? := by
  have hblank : ∀ c ∈ s.toList, Text.isBlank c = false := by
    rw [hs]
    intro c hc
    obtain ⟨hlow, hhigh⟩ := List.forall_mem_append.2 ⟨hsign.bounds, h.bounds⟩ c hc
    exact Text.isBlank_eq_false (Nat.le_trans (by decide) hlow) (Nat.le_trans hhigh (by decide))
  have htrim : Text.trim s = s := by
    rw [Text.trim, Text.trimChars_eq_self hblank, String.ofList_toList]
  have hne : s ≠ "" := by
    rintro rfl
    obtain ⟨c, rest, rfl, -⟩ := h.exists_cons
    simp at hs
  rw [textNumber_eq, htrim, if_neg hne, hs, ofText?_of_isWritten hsign h]
  rfl

theorem textNumber_text (negative : Bool) (x : Magnitude) :
    textNumber (finite negative x).text = finite negative x := by
  obtain ⟨sign, cs, d, hsign, hwritten, hvalue, htext⟩ := exists_sign_isWritten_text negative x
  rw [textNumber_of_isWritten hsign hwritten htext, hvalue]
  rfl

theorem textNumber_toString (z : Int) : textNumber (toString z) =
    ofMagnitude? (decide (z < 0)) (Decimal.toMagnitude? ⟨z.natAbs, 0⟩) := by
  obtain ⟨sign, hsign, htext⟩ := exists_sign_toString z
  exact textNumber_of_isWritten hsign (isWritten_toDigits _) htext

def wholePart (negative : Bool) (x : Magnitude) : Int := if negative then -x.floor else x.floor

theorem numberText_of_isWhole (h : x.isWhole = true ∧ x.floor < 10 ^ 21) :
    numberText (.finite negative x) = toString (clampedToInt64 (wholePart negative x)) := by
  have hbranch : (x.isWhole && decide (x.floor < Nat.pow 10 21)) = true := by
    simpa using h
  rw [numberText, if_pos hbranch, wholePart]

theorem numberText_of_not_isWhole (h : ¬(x.isWhole = true ∧ x.floor < 10 ^ 21)) :
    numberText (.finite negative x) = (Binary64.finite negative x).text := by
  have hbranch : ¬(x.isWhole && decide (x.floor < Nat.pow 10 21)) = true := by
    simpa using h
  rw [numberText, if_neg hbranch]

theorem clampedToInt64_eq (z : Int) :
    clampedToInt64 z = max (-2 ^ 63) (min z (2 ^ 63 - 1)) := rfl

/-- The magnitude `2 ^ 63`, to which the largest integer of 64 bits is rounded. -/
def int64Bound : Magnitude := ⟨1 <<< 52, 1085, by decide, .inr (by decide), by decide⟩

theorem int64Bound_steps : 2 ^ 63 * Magnitude.stepsInOne = int64Bound.steps := by
  decide +kernel

/-- The integer that is written for a whole number is read as the number or, if that is farther
from zero, as `2 ^ 63`. -/
theorem exists_toMagnitude?_clamped (negative : Bool) (h : x.isWhole = true) :
    ∃ y, Decimal.toMagnitude? ⟨(clampedToInt64 (wholePart negative x)).natAbs, 0⟩ = some y ∧
      y.steps = min x.floor (2 ^ 63) * Magnitude.stepsInOne := by
  -- At `2 ^ 63` itself the number is read, although the largest integer is written for it.
  have hcases : (clampedToInt64 (wholePart negative x)).natAbs = x.floor ∧ x.floor ≤ 2 ^ 63 ∨
      2 ^ 63 ≤ x.floor ∧ ((clampedToInt64 (wholePart negative x)).natAbs = 2 ^ 63 - 1 ∨
        (clampedToInt64 (wholePart negative x)).natAbs = 2 ^ 63) := by
    rw [clampedToInt64_eq, wholePart]
    cases negative <;> simp only [Bool.false_eq_true, if_false, if_true] <;> omega
  rcases hcases with ⟨hclamped, hle⟩ | ⟨hge, hclamped⟩
  · have hlength : decimalLength x.floor ≤ 310 :=
      Nat.le_trans (decimalLength_mono hle) (by decide +kernel)
    rw [hclamped, Nat.min_eq_left hle, Magnitude.floor_mul_stepsInOne h]
    exact ⟨x, Magnitude.toMagnitude?_natural hlength (Magnitude.floor_mul_stepsInOne h), rfl⟩
  · rw [Nat.min_eq_right hge, int64Bound_steps]
    refine ⟨int64Bound, ?_, rfl⟩
    rcases hclamped with hclamped | hclamped <;> rw [hclamped] <;> decide +kernel

theorem level?_of_steps_eq {m : Nat} (h : x.steps = m * Magnitude.stepsInOne) :
    (finite negative x).level? =
      some ((if negative then -m else m : Int) * Magnitude.stepsInOne) := by
  cases negative <;> simp [level?, h]

/-- A whole number that is written as an integer is read back unless it is beyond `2 ^ 63`. -/
theorem textNumber_clamped_equals_iff (negative : Bool) (h : x.isWhole = true) :
    (textNumber (toString (clampedToInt64 (wholePart negative x)))).equals (finite negative x) =
      true ↔ x.floor ≤ 2 ^ 63 := by
  obtain ⟨y, hread, hsteps⟩ := exists_toMagnitude?_clamped negative h
  have hpos : (Magnitude.stepsInOne : Int) ≠ 0 :=
    Int.natCast_ne_zero.2 (Nat.ne_of_gt Magnitude.stepsInOne_pos)
  -- Both numbers are multiples of one, so it is the signed multiples that are compared.
  rw [textNumber_toString, hread, ofMagnitude?, equals_iff_level?, level?_of_steps_eq hsteps,
    level?_of_steps_eq (Magnitude.floor_mul_stepsInOne h).symm]
  generalize hm : min x.floor (2 ^ 63) = m
  simp only [Option.some.injEq, exists_eq_left', Int.mul_eq_mul_right_iff hpos, decide_eq_true_eq]
  rw [clampedToInt64_eq, wholePart]
  cases negative <;> simp only [Bool.false_eq_true, if_false, if_true] <;> omega

theorem toString_clamped_eq_iff (z : Int) :
    toString (clampedToInt64 z) = toString z ↔ -2 ^ 63 ≤ z ∧ z < 2 ^ 63 := by
  rw [toString_eq_toString_iff, clampedToInt64_eq]
  omega

end Written

/-- A finite number is read back from its text unless it is whole, less than `10 ^ 21` and more than
`2 ^ 63` away from zero. Of the whole numbers below `10 ^ 21` those are written with their digits
that 64 bits can hold. -/
theorem number_read_back_iff (negative : Bool) (x : Magnitude) :
    ((text (number (finite negative x)).shown).toNumber.equals (finite negative x) = true ↔
      ¬((x.isWhole = true ∧ x.floor < 10 ^ 21) ∧ 2 ^ 63 < x.floor)) ∧
    (x.isWhole = true ∧ x.floor < 10 ^ 21 →
      ((number (finite negative x)).shown = toString (wholePart negative x) ↔
        -2 ^ 63 ≤ wholePart negative x ∧ wholePart negative x < 2 ^ 63)) := by
  by_cases h : x.isWhole = true ∧ x.floor < 10 ^ 21
  · have hshown : (number (finite negative x)).shown =
        toString (clampedToInt64 (wholePart negative x)) := numberText_of_isWhole h
    rw [hshown, toNumber, textNumber_clamped_equals_iff negative h.1]
    refine ⟨?_, fun _ => toString_clamped_eq_iff _⟩
    rw [not_and, Nat.not_lt]
    exact ⟨fun hle _ => hle, fun hle => hle h⟩
  · have hshown : (number (finite negative x)).shown = (finite negative x).text :=
      numberText_of_not_isWhole h
    rw [hshown, toNumber, textNumber_text]
    have hself : (finite negative x).equals (finite negative x) = true :=
      equals_self_iff.2 nofun
    exact ⟨iff_of_true hself fun hfar => h hfar.1, fun hwhole => absurd hwhole h⟩

theorem least_int64_read_back :
    (text (number (finite true int64Bound)).shown).toNumber.equals (finite true int64Bound) = true ∧
      (number (finite true int64Bound)).shown = toString (-2 ^ 63 : Int) := by
  have hfloor : int64Bound.floor = 2 ^ 63 := by decide +kernel
  have hwhole : int64Bound.isWhole = true ∧ int64Bound.floor < 10 ^ 21 := by decide +kernel
  have hpart : wholePart true int64Bound = -2 ^ 63 := by decide +kernel
  obtain ⟨hback, hdigits⟩ := number_read_back_iff true int64Bound
  constructor
  · exact hback.2 fun hfar => absurd hfar.2 (Nat.not_lt.2 (Nat.le_of_eq hfloor))
  · rw [← hpart]
    exact (hdigits hwhole).2 (by rw [hpart]; decide)

theorem ten_pow_nineteen_not_read_back :
    (Binary64.ofNat (10 ^ 19)).toNat? = some (10 ^ 19) ∧
      (number (.ofNat (10 ^ 19))).shown = "9223372036854775807" ∧
      (text (number (.ofNat (10 ^ 19))).shown).toNumber.equals (.ofNat (10 ^ 19)) = false := by
  decide +kernel

end Checker

end SubmissionGrader
