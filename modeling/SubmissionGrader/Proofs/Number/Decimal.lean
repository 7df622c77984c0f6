import Mathlib.Tactic.Ring
import SubmissionGrader.Number.Decimal
import SubmissionGrader.Proofs.Lists
import SubmissionGrader.Proofs.Number.Binary64

/-!
# Reading and writing decimals

`Decimal.IsWritten` says how a decimal may be written, and those are exactly the texts that are read
as it (`Binary64.decimal?_eq_some_iff`). The magnitude nearest to a decimal does not depend on how
many of its zeros are in its exponent, so a magnitude is read back from its shortest digits
(`Magnitude.toMagnitude?_shortest`), and a finite number from its text (`Binary64.ofText?_text`).
-/

namespace SubmissionGrader

open Binary64

/-! ## How decimals are written -/

def AreDigits (cs : List Char) : Prop := ∀ c ∈ cs, c.isDigit = true

/-- The characters are written for the exponent of a number: nothing for zero, or the letter `e` of
either case, perhaps a sign, and digits. -/
inductive IsExponent : Int → List Char → Prop
  | absent : IsExponent 0 []
  | positive {e : Char} {sign digits : List Char} (he : e = 'e' ∨ e = 'E')
      (hsign : sign = [] ∨ sign = ['+']) (hne : digits ≠ []) (hdigits : AreDigits digits) :
      IsExponent (digitsValue digits) (e :: (sign ++ digits))
  | negative {e : Char} {digits : List Char} (he : e = 'e' ∨ e = 'E') (hne : digits ≠ [])
      (hdigits : AreDigits digits) : IsExponent (-(digitsValue digits)) (e :: '-' :: digits)

/-- The characters are a way to write the decimal: digits, or digits with a point among or around
them, and an exponent. -/
inductive Decimal.IsWritten : Decimal → List Char → Prop
  | plain {whole exponent : List Char} {e : Int} (hne : whole ≠ []) (hwhole : AreDigits whole)
      (hexponent : IsExponent e exponent) : IsWritten ⟨digitsValue whole, e⟩ (whole ++ exponent)
  | pointed {whole fraction exponent : List Char} {e : Int} (hne : whole ≠ [] ∨ fraction ≠ [])
      (hwhole : AreDigits whole) (hfraction : AreDigits fraction)
      (hexponent : IsExponent e exponent) :
      IsWritten ⟨digitsValue (whole ++ fraction), e - fraction.length⟩
        (whole ++ '.' :: (fraction ++ exponent))

section Written

variable {e : Int} {cs exponent : List Char} {d : Decimal}

theorem not_isEmpty_and_all_isDigit_iff :
    (!cs.isEmpty && cs.all Char.isDigit) = true ↔ cs ≠ [] ∧ AreDigits cs := by
  simp [AreDigits]

theorem isExponentLetter_iff {c : Char} : (c == 'e' || c == 'E') = true ↔ c = 'e' ∨ c = 'E' := by
  simp

/-- Only a letter and digits are read as an exponent that is written. -/
theorem isExponent_of_exponentOf? (h : exponentOf? cs = some e) : IsExponent e cs := by
  rw [exponentOf?.eq_def] at h
  split at h
  next =>
    cases h
    exact .absent
  next c rest =>
    rw [Option.ite_none_right_eq_some, isExponentLetter_iff] at h
    obtain ⟨hc, h⟩ := h
    split at h
    next negative digits hsign =>
    rw [Option.ite_none_right_eq_some, not_isEmpty_and_all_isDigit_iff] at h
    obtain ⟨⟨hne, hdigits⟩, heq⟩ := h
    split at hsign <;> cases hsign <;> cases heq
    · exact .negative hc hne hdigits
    · have hsign : ['+'] = [] ∨ ['+'] = ['+'] := .inr rfl
      exact .positive hc hsign hne hdigits
    · have hsign : ([] : List Char) = [] ∨ [] = ['+'] := .inl rfl
      exact .positive hc hsign hne hdigits

theorem IsExponent.exponentOf? (h : IsExponent e cs) : exponentOf? cs = some e := by
  cases h with
  | absent => rfl
  | @positive c sign digits hc hsign hne hdigits =>
    have hc' := isExponentLetter_iff.2 hc
    have hdigits' := not_isEmpty_and_all_isDigit_iff.2 ⟨hne, hdigits⟩
    rcases hsign with rfl | rfl
    · obtain ⟨d, ds, rfl⟩ := List.exists_cons_of_ne_nil hne
      have hd : d.isDigit = true := hdigits d List.mem_cons_self
      have hminus : ∀ tail, d :: ds = '-' :: tail → False := by
        rintro tail ⟨⟩
        exact absurd hd (by decide)
      have hplus : ∀ tail, d :: ds = '+' :: tail → False := by
        rintro tail ⟨⟩
        exact absurd hd (by decide)
      rw [List.nil_append, exponentOf?.eq_4 c _ hminus hplus, if_pos hc', if_pos hdigits']
      rfl
    · rw [List.singleton_append, exponentOf?.eq_3, if_pos hc', if_pos hdigits']
      rfl
  | @negative c digits hc hne hdigits =>
    rw [exponentOf?.eq_2, if_pos (isExponentLetter_iff.2 hc),
      if_pos (not_isEmpty_and_all_isDigit_iff.2 ⟨hne, hdigits⟩)]
    rfl

theorem exponentOf?_eq_some_iff : exponentOf? cs = some e ↔ IsExponent e cs :=
  ⟨isExponent_of_exponentOf?, IsExponent.exponentOf?⟩

theorem IsExponent.head (h : IsExponent e cs) : ∀ c ∈ cs.head?, c = 'e' ∨ c = 'E' := by
  cases h with
  | absent => simp
  | positive hc => simpa using hc
  | negative hc => simpa using hc

theorem IsExponent.not_isDigit (h : IsExponent e cs) : ∀ c ∈ cs.head?, c.isDigit = false := by
  intro c hc
  rcases h.head c hc with rfl | rfl <;> rfl

/-- Digits stop at an exponent. -/
theorem decimal?_plain {whole : List Char} (hne : whole ≠ []) (hwhole : AreDigits whole)
    (hexponent : IsExponent e exponent) :
    decimal? (whole ++ exponent) = some ⟨digitsValue whole, e⟩ := by
  have htake := Lists.takeWhile_append_eq hwhole hexponent.not_isDigit
  have hdrop := Lists.dropWhile_append_eq hwhole hexponent.not_isDigit
  have hpoint : ∀ rest, exponent = '.' :: rest → False := by
    rintro rest rfl
    have hhead := hexponent.head '.' rfl
    exact absurd hhead (by decide)
  rw [decimal?, htake, hdrop]
  split
  next fraction rest hparts =>
    split at hparts
    next rest' => exact (hpoint rest' rfl).elim
    next =>
      cases hparts
      simp [hne, hexponent.exponentOf?]

theorem decimal?_pointed {whole fraction : List Char} (hne : whole ≠ [] ∨ fraction ≠ [])
    (hwhole : AreDigits whole) (hfraction : AreDigits fraction)
    (hexponent : IsExponent e exponent) :
    decimal? (whole ++ '.' :: (fraction ++ exponent)) =
      some ⟨digitsValue (whole ++ fraction), e - fraction.length⟩ := by
  have hpoint : ∀ c ∈ ('.' :: (fraction ++ exponent)).head?, c.isDigit = false := by
    rintro c ⟨⟩
    rfl
  have htake := Lists.takeWhile_append_eq hwhole hpoint
  have hdrop := Lists.dropWhile_append_eq hwhole hpoint
  have htake' := Lists.takeWhile_append_eq hfraction hexponent.not_isDigit
  have hdrop' := Lists.dropWhile_append_eq hfraction hexponent.not_isDigit
  have hsome : ¬(whole.isEmpty && fraction.isEmpty) = true := by
    simp only [Bool.and_eq_true, List.isEmpty_iff]
    tauto
  simp only [decimal?, htake, hdrop, htake', hdrop', if_neg hsome, hexponent.exponentOf?,
    Option.map_some]

theorem isWritten_of_decimal? (h : decimal? cs = some d) : d.IsWritten cs := by
  obtain ⟨hcs, hwhole, -⟩ :=
    Lists.eq_takeWhile_append_of_dropWhile (rfl : cs.dropWhile Char.isDigit = _)
  rw [decimal?] at h
  generalize cs.takeWhile Char.isDigit = whole at h hcs hwhole
  generalize cs.dropWhile Char.isDigit = behind at h hcs
  subst hcs
  split at h
  next fraction exponent hparts =>
  obtain ⟨hsome, hexponent⟩ := Option.ite_none_left_eq_some.1 h
  obtain ⟨e, he, rfl⟩ := Option.map_eq_some_iff.1 hexponent
  have hexp := exponentOf?_eq_some_iff.1 he
  simp only [Bool.and_eq_true, List.isEmpty_iff, not_and_or] at hsome
  split at hparts
  next rest =>
    obtain ⟨hrest, hfraction, -⟩ :=
      Lists.eq_takeWhile_append_of_dropWhile (rfl : rest.dropWhile Char.isDigit = _)
    cases hparts
    have hwritten := Decimal.IsWritten.pointed hsome hwhole hfraction hexp
    rwa [← hrest] at hwritten
  next =>
    cases hparts
    have hne : whole ≠ [] := hsome.resolve_right fun h => h rfl
    simpa using Decimal.IsWritten.plain hne hwhole hexp

theorem AreDigits.bounds (h : AreDigits cs) :
    ∀ c ∈ cs, '+'.toNat ≤ c.toNat ∧ c.toNat ≤ 'e'.toNat := by
  intro c hc
  obtain ⟨hlow, hhigh⟩ := Char.isDigit_iff_toNat.1 (h c hc)
  exact ⟨Nat.le_trans (by decide) hlow, Nat.le_trans hhigh (by decide)⟩

theorem IsExponent.bounds (h : IsExponent e cs) :
    ∀ c ∈ cs, '+'.toNat ≤ c.toNat ∧ c.toNat ≤ 'e'.toNat := by
  have hletter {c : Char} (hc : c = 'e' ∨ c = 'E') : '+'.toNat ≤ c.toNat ∧ c.toNat ≤ 'e'.toNat := by
    rcases hc with rfl | rfl <;> decide
  cases h with
  | absent => nofun
  | positive hc hsign _ hdigits =>
    refine List.forall_mem_cons.2 ⟨hletter hc, List.forall_mem_append.2 ⟨?_, hdigits.bounds⟩⟩
    rcases hsign with rfl | rfl <;> simp
  | negative hc _ hdigits =>
    exact List.forall_mem_cons.2 ⟨hletter hc, List.forall_mem_cons.2 ⟨by decide, hdigits.bounds⟩⟩

/-- No character of a decimal is in front of the signs or behind the letter `e`. -/
theorem Decimal.IsWritten.bounds (h : d.IsWritten cs) :
    ∀ c ∈ cs, '+'.toNat ≤ c.toNat ∧ c.toNat ≤ 'e'.toNat := by
  cases h with
  | plain _ hwhole hexponent =>
    exact List.forall_mem_append.2 ⟨hwhole.bounds, hexponent.bounds⟩
  | pointed _ hwhole hfraction hexponent =>
    have hbehind := List.forall_mem_append.2 ⟨hfraction.bounds, hexponent.bounds⟩
    exact List.forall_mem_append.2 ⟨hwhole.bounds, List.forall_mem_cons.2 ⟨by decide, hbehind⟩⟩

/-- The texts that are read as a decimal are the ways to write it. -/
theorem decimal?_eq_some_iff : decimal? cs = some d ↔ d.IsWritten cs := by
  constructor
  · exact isWritten_of_decimal?
  · intro h
    cases h with
    | plain hne hwhole hexponent => exact decimal?_plain hne hwhole hexponent
    | pointed hne hwhole hfraction hexponent =>
      exact decimal?_pointed hne hwhole hfraction hexponent

end Written

/-! ## The magnitude of a decimal -/

theorem decimalLength_mono {m n : Nat} (h : m ≤ n) : decimalLength m ≤ decimalLength n := by
  have hpos : 0 < decimalLength n := Nat.length_toDigits_pos
  have hn : n < 10 ^ decimalLength n :=
    (Nat.length_toDigits_le_iff (by decide) hpos).1 (Nat.le_refl _)
  exact (Nat.length_toDigits_le_iff (by decide) hpos).2 (Nat.lt_of_le_of_lt h hn)

theorem decimalLength_ten_mul {n : Nat} (h : n ≠ 0) :
    decimalLength (10 * n) = decimalLength n + 1 := by
  have hbase : 10 ≤ 10 * n := by omega
  rw [decimalLength, Nat.toDigits_of_base_le (by decide) hbase,
    Nat.mul_div_cancel_left n (by decide), List.length_append]
  rfl

namespace Decimal

/-- A zero of the digits can stand in the exponent instead. -/
theorem toMagnitude?_ten_mul (n : Nat) (e : Int) :
    toMagnitude? ⟨10 * n, e⟩ = toMagnitude? ⟨n, e + 1⟩ := by
  rcases Nat.eq_zero_or_pos n with rfl | hpos
  · simp [toMagnitude?]
  · have hne : n ≠ 0 := Nat.ne_of_gt hpos
    have hlength : (decimalLength (10 * n) : Int) + e = decimalLength n + (e + 1) := by
      rw [decimalLength_ten_mul hne]
      omega
    have hquotient : Magnitude.ofQuotient? (10 * n * Nat.pow 10 e.toNat) (Nat.pow 10 (-e).toNat) =
        Magnitude.ofQuotient? (n * Nat.pow 10 (e + 1).toNat) (Nat.pow 10 (-(e + 1)).toNat) := by
      rcases lt_or_ge e 0 with hneg | hnonneg
      · have hplaces : (-e).toNat = (-(e + 1)).toNat + 1 := by omega
        have hnone : e.toNat = 0 ∧ (e + 1).toNat = 0 := by omega
        rw [hplaces, hnone.1, hnone.2]
        simp only [Nat.pow_eq, Nat.pow_succ, Nat.pow_zero, Nat.mul_one, Nat.mul_comm 10]
        exact Magnitude.ofQuotient?_mul_right (by decide) _ _
      · have hplaces : (e + 1).toNat = e.toNat + 1 := by omega
        have hnone : (-e).toNat = 0 ∧ (-(e + 1)).toNat = 0 := by omega
        rw [hplaces, hnone.1, hnone.2]
        simp only [Nat.pow_eq, Nat.pow_succ]
        congr 1
        ring
    have hne' : 10 * n ≠ 0 := by omega
    simp only [toMagnitude?, hlength, hquotient, hne, hne']

/-- Decimals whose length is within the limits are rounded. -/
theorem toMagnitude?_of_places {n k : Nat} (hne : n ≠ 0) (hlow : k ≤ decimalLength n + 330)
    (hhigh : decimalLength n ≤ k + 310) :
    toMagnitude? ⟨n, -k⟩ = Magnitude.ofQuotient? n (Nat.pow 10 k) := by
  have hsmall : ¬(n = 0 ∨ (decimalLength n : Int) + -k < -330) := by omega
  have hlarge : ¬(decimalLength n : Int) + -k > 310 := by omega
  have hwhole : (-k : Int).toNat = 0 := by omega
  have hplaces : (- -k : Int).toNat = k := by omega
  simp only [toMagnitude?, Bool.or_eq_true, decide_eq_true_eq, if_neg hsmall, if_neg hlarge, hwhole,
    hplaces, Nat.pow_eq, Nat.pow_zero, Nat.mul_one]

theorem toMagnitude?_mul_pow (n k : Nat) (e : Int) :
    toMagnitude? ⟨n * 10 ^ k, e⟩ = toMagnitude? ⟨n, e + k⟩ := by
  induction k generalizing e with
  | zero => simp
  | succ k ih =>
    have hdigits : n * 10 ^ (k + 1) = 10 * (n * 10 ^ k) := by ring
    have hexponent : e + 1 + k = e + (k + 1 : Nat) := by omega
    rw [hdigits, toMagnitude?_ten_mul, ih, hexponent]

theorem toMagnitude?_stripZeros (fuel : Nat) (d : Decimal) :
    (d.stripZeros fuel).toMagnitude? = d.toMagnitude? := by
  induction fuel generalizing d with
  | zero => rfl
  | succ fuel ih =>
    rw [stripZeros]
    split
    next h =>
      have hdigits : 10 * (d.digits / 10) = d.digits := by
        simp only [Bool.and_eq_true, decide_eq_true_eq] at h
        omega
      rw [ih, ← toMagnitude?_ten_mul, hdigits]
    next => rfl

end Decimal

namespace Magnitude

variable {x : Magnitude}

theorem toMagnitude?_of_onGrid? {e : Int} {d : Decimal} (h : x.onGrid? e = some d) :
    d.toMagnitude? = some x := by
  simpa using List.find?_some h

/-- A natural number that is a magnitude is read as it. -/
theorem toMagnitude?_natural {n : Nat} (hlength : decimalLength n ≤ 310)
    (h : n * stepsInOne = x.steps) : Decimal.toMagnitude? ⟨n, 0⟩ = some x := by
  rcases Nat.eq_zero_or_pos n with rfl | hpos
  · rw [Nat.zero_mul] at h
    rw [steps_eq_zero_iff.1 h.symm]
    rfl
  · have hself : ofQuotient? n (Nat.pow 10 0) = some x :=
      ofQuotient?_eq_self Nat.one_pos (by rw [h, Nat.one_mul])
    rw [← hself]
    exact Decimal.toMagnitude?_of_places (k := 0) (Nat.ne_of_gt hpos) (by omega) (by omega)

/-- The length of all digits of a magnitude is within the limits beyond which decimals are not
rounded. -/
theorem decimalLength_allDigits (h : x.steps ≠ 0) :
    1074 ≤ decimalLength (x.steps * Nat.pow 5 1074) + 330 ∧
      decimalLength (x.steps * Nat.pow 5 1074) ≤ 1074 + 310 := by
  constructor
  · have hlow : Nat.pow 5 1074 ≤ x.steps * Nat.pow 5 1074 :=
      Nat.le_mul_of_pos_left _ (Nat.pos_of_ne_zero h)
    calc 1074 ≤ decimalLength (Nat.pow 5 1074) + 330 := by decide +kernel
      _ ≤ decimalLength (x.steps * Nat.pow 5 1074) + 330 :=
        Nat.add_le_add_right (decimalLength_mono hlow) 330
  · have hpos : 0 < Nat.pow 5 1074 := by decide +kernel
    have hsteps := steps_lt x.scale_le
    have hhigh := Nat.mul_lt_mul_of_pos_right hsteps hpos
    exact Nat.le_trans (decimalLength_mono (Nat.le_of_lt hhigh)) (by decide +kernel)

/-- All digits of a magnitude are read back as it: a step has as many decimal places as there are
halvings of one in it. -/
theorem toMagnitude?_allDigits {k : Nat} (hk : stepsInOne = 1 <<< k)
    (h : x.steps ≠ 0) (hlow : k ≤ decimalLength (x.steps * Nat.pow 5 k) + 330)
    (hhigh : decimalLength (x.steps * Nat.pow 5 k) ≤ k + 310) :
    Decimal.toMagnitude? ⟨x.steps * Nat.pow 5 k, -k⟩ = some x := by
  have hpow : 0 < Nat.pow 5 k := Nat.pow_pos (by decide)
  have hbase : Nat.pow 10 k = stepsInOne * Nat.pow 5 k := by
    rw [hk, Nat.one_shiftLeft]
    exact Nat.mul_pow 2 5 k
  have hself : ofQuotient? (x.steps * Nat.pow 5 k) (Nat.pow 10 k) = some x := by
    rw [hbase, ofQuotient?_mul_right hpow]
    exact ofQuotient?_eq_self stepsInOne_pos (Nat.mul_comm _ _)
  have hne : x.steps * Nat.pow 5 k ≠ 0 := Nat.mul_ne_zero h (Nat.ne_of_gt hpow)
  rw [Decimal.toMagnitude?_of_places hne hlow hhigh, hself]

theorem toMagnitude?_exactDecimal (h : x.steps ≠ 0) : x.exactDecimal.toMagnitude? = some x := by
  have hexact : x.exactDecimal = ⟨x.steps * Nat.pow 5 1074, -(1074 : Nat)⟩ := rfl
  have hsteps : stepsInOne = 1 <<< 1074 := rfl
  have hlength := decimalLength_allDigits h
  rw [hexact]
  -- From here on the number of places is any number, lest powers be computed.
  generalize 1074 = k at hsteps hlength ⊢
  exact toMagnitude?_allDigits hsteps h hlength.1 hlength.2

/-- A magnitude is read back from its shortest digits. -/
theorem toMagnitude?_shortest (x : Magnitude) : x.shortest.toMagnitude? = some x := by
  by_cases h : x.steps = 0
  · rw [shortest, if_pos h, steps_eq_zero_iff.1 h]
    rfl
  · rw [shortest, if_neg h]
    simp only [Decimal.toMagnitude?_stripZeros]
    cases hfound : (List.range 17).findSome? fun (n : Nat) =>
        x.onGrid? (x.decimalScale - (n + 1)) with
    | none => exact toMagnitude?_exactDecimal h
    | some d =>
      obtain ⟨n, -, hgrid⟩ := List.exists_of_findSome?_eq_some hfound
      exact toMagnitude?_of_onGrid? hgrid

end Magnitude

/-! ## The text of a decimal -/

section Digits

variable {cs : List Char}

theorem digitsValue_eq (cs : List Char) : digitsValue cs = Nat.ofDigitChars 10 cs 0 :=
  Nat.ofDigitChars_eq_foldl.symm

theorem digitsValue_toDigits (n : Nat) : digitsValue (Nat.toDigits 10 n) = n := by
  rw [digitsValue_eq, Nat.ofDigitChars_ten_toDigits]

theorem digitsValue_append_zeros (cs : List Char) (k : Nat) :
    digitsValue (cs ++ List.replicate k '0') = digitsValue cs * 10 ^ k := by
  rw [digitsValue_eq, Nat.ofDigitChars_append, Nat.ofDigitChars_replicate_zero, digitsValue_eq,
    Nat.mul_comm]

theorem digitsValue_zeros_append (k : Nat) (cs : List Char) :
    digitsValue (List.replicate k '0' ++ cs) = digitsValue cs := by
  rw [digitsValue_eq, Nat.ofDigitChars_append, Nat.ofDigitChars_replicate_zero, Nat.mul_zero,
    digitsValue_eq]

theorem areDigits_toDigits (n : Nat) : AreDigits (Nat.toDigits 10 n) :=
  fun _ hc => Nat.isDigit_of_mem_toDigits (by decide) (by decide) hc

theorem areDigits_zeros (k : Nat) : AreDigits (List.replicate k '0') := by
  intro c hc
  rw [List.eq_of_mem_replicate hc]
  rfl

theorem areDigits_append {ds : List Char} (hcs : AreDigits cs) (hds : AreDigits ds) :
    AreDigits (cs ++ ds) := by
  intro c hc
  exact (List.mem_append.1 hc).elim (hcs c) (hds c)

end Digits

namespace Decimal

theorem isWritten_digits {cs : List Char} (hne : cs ≠ []) (hcs : AreDigits cs) :
    IsWritten ⟨digitsValue cs, 0⟩ cs := by
  simpa using IsWritten.plain hne hcs .absent

theorem isWritten_places {cs : List Char} {places : Nat} (hplaces : places < cs.length)
    (hcs : AreDigits cs) :
    IsWritten ⟨digitsValue cs, -places⟩
      (cs.take (cs.length - places) ++ '.' :: cs.drop (cs.length - places)) := by
  have hwhole : cs.take (cs.length - places) ≠ [] := by
    rw [← List.length_pos_iff, List.length_take]
    omega
  have hlength : (cs.drop (cs.length - places)).length = places := by
    rw [List.length_drop]
    omega
  have hwritten := IsWritten.pointed (.inl hwhole) (fun c hc => hcs c (List.mem_of_mem_take hc))
    (fun c hc => hcs c (List.mem_of_mem_drop (i := cs.length - places) hc)) .absent
  rwa [List.take_append_drop, hlength, Int.zero_sub, List.append_nil] at hwritten

/-- The text of a decimal denotes the decimal, or the same value with its zeros written out. -/
theorem exists_isWritten_text (d : Decimal) :
    ∃ d' : Decimal, d'.IsWritten d.text.toList ∧ d'.toMagnitude? = d.toMagnitude? := by
  have hdigits := areDigits_toDigits d.digits
  rw [text]
  split
  next hnonneg =>
    generalize hk : (if d.digits = 0 then 0 else d.exponent.toNat) = k
    have hne : Nat.toDigits 10 d.digits ++ List.replicate k '0' ≠ [] :=
      List.append_ne_nil_of_left_ne_nil Nat.toDigits_ne_nil _
    rw [String.toList_ofList]
    refine ⟨_, isWritten_digits hne (areDigits_append hdigits (areDigits_zeros k)), ?_⟩
    rw [digitsValue_append_zeros, digitsValue_toDigits, toMagnitude?_mul_pow]
    split at hk
    next hzero => simp [toMagnitude?, hzero]
    next =>
      have he : 0 + (k : Int) = d.exponent := by omega
      rw [he]
  next hneg =>
    dsimp only
    generalize hplaces : (-d.exponent).toNat = places
    generalize hpadded : List.replicate (places + 1 - (Nat.toDigits 10 d.digits).length) '0' ++
      Nat.toDigits 10 d.digits = padded
    have hlength : places < padded.length := by
      rw [← hpadded, List.length_append, List.length_replicate]
      omega
    have hall : AreDigits padded := hpadded ▸ areDigits_append (areDigits_zeros _) hdigits
    have hvalue : digitsValue padded = d.digits := by
      rw [← hpadded, digitsValue_zeros_append, digitsValue_toDigits]
    have hexponent : -(places : Int) = d.exponent := by omega
    have hwritten := isWritten_places hlength hall
    rw [hvalue, hexponent] at hwritten
    rw [String.toList_ofList]
    exact ⟨d, hwritten, rfl⟩

end Decimal

/-! ## Numbers -/

inductive IsSign : Bool → List Char → Prop
  | absent : IsSign false []
  | plus : IsSign false ['+']
  | minus : IsSign true ['-']

/-- The characters are a word for the infinite number, in either case. -/
def IsInfinityWord (cs : List Char) : Prop :=
  lowered cs = "inf".toList ∨ lowered cs = "infinity".toList

section Number

variable {negative : Bool} {sign cs : List Char} {d : Decimal}

/-- A decimal begins with a digit or a point. -/
theorem Decimal.IsWritten.exists_cons (h : d.IsWritten cs) :
    ∃ c rest, cs = c :: rest ∧ '.'.toNat ≤ c.toNat ∧ c.toNat ≤ '9'.toNat := by
  have hdigit {c : Char} (hc : c.isDigit = true) : '.'.toNat ≤ c.toNat ∧ c.toNat ≤ '9'.toNat := by
    obtain ⟨hlow, hhigh⟩ := Char.isDigit_iff_toNat.1 hc
    exact ⟨Nat.le_trans (by decide) hlow, hhigh⟩
  cases h with
  | plain hne hwhole =>
    obtain ⟨c, rest, rfl⟩ := List.exists_cons_of_ne_nil hne
    exact ⟨c, _, rfl, hdigit (hwhole c List.mem_cons_self)⟩
  | @pointed whole fraction exponent e hne hwhole =>
    cases whole with
    | nil => exact ⟨'.', _, rfl, by decide⟩
    | cons c rest => exact ⟨c, _, rfl, hdigit (hwhole c List.mem_cons_self)⟩

theorem ofText?_of_head (hcs : ∀ c ∈ cs.head?, c ≠ '-' ∧ c ≠ '+') :
    ofText? cs = unsigned? false cs := by
  refine ofText?.eq_3 cs ?_ ?_
  · rintro rest rfl
    exact (hcs '-' rfl).1 rfl
  · rintro rest rfl
    exact (hcs '+' rfl).2 rfl

theorem ofText?_sign_append (hsign : IsSign negative sign)
    (hcs : ∀ c ∈ cs.head?, c ≠ '-' ∧ c ≠ '+') :
    ofText? (sign ++ cs) = unsigned? negative cs := by
  cases hsign with
  | absent => exact ofText?_of_head hcs
  | plus => rfl
  | minus => rfl

/-- A number is read from what stands behind its sign. -/
theorem exists_sign (cs : List Char) : ∃ negative sign word, IsSign negative sign ∧
    cs = sign ++ word ∧ ofText? cs = unsigned? negative word := by
  rw [ofText?.eq_def]
  split
  next word => exact ⟨true, ['-'], word, .minus, rfl, rfl⟩
  next word => exact ⟨false, ['+'], word, .plus, rfl, rfl⟩
  next => exact ⟨false, [], cs, .absent, rfl, rfl⟩

/-- No character in front of the letters is lowered to one. -/
theorem lowered_ne_of_head {c w : Char} {rest word : List Char} (hc : c.toNat ≤ '9'.toNat)
    (hw : '9'.toNat < w.toNat) : lowered (c :: rest) ≠ w :: word := by
  have hnot : ¬(c.val ≥ 'A'.val ∧ c.val ≤ 'Z'.val) := by
    rintro ⟨hupper, -⟩
    have hge : 'A'.toNat ≤ c.toNat := UInt32.le_iff_toNat_le.1 hupper
    exact absurd (Nat.le_trans hge hc) (by decide)
  have hlower : c.toLower = c := dif_neg hnot
  intro h
  obtain ⟨rfl, -⟩ := List.cons.inj h
  rw [hlower] at hw
  exact Nat.not_lt.2 hc hw

theorem Decimal.IsWritten.not_isInfinityWord (h : d.IsWritten cs) : ¬IsInfinityWord cs := by
  obtain ⟨c, rest, rfl, -, hc⟩ := h.exists_cons
  simp only [IsInfinityWord, String.reduceToList, not_or]
  exact ⟨lowered_ne_of_head hc (by decide), lowered_ne_of_head hc (by decide)⟩

theorem unsigned?_of_isWritten (h : d.IsWritten cs) :
    unsigned? negative cs = some (ofMagnitude? negative d.toMagnitude?) := by
  obtain ⟨hinf, hinfinity⟩ := not_or.1 h.not_isInfinityWord
  have hnan : lowered cs ≠ "nan".toList := by
    obtain ⟨c, rest, rfl, -, hc⟩ := h.exists_cons
    simpa using lowered_ne_of_head hc (by decide)
  simp only [unsigned?, Bool.or_eq_true, beq_iff_eq, hinf, hinfinity, or_self, if_false, hnan,
    decimal?_eq_some_iff.2 h, Option.map_some]

theorem Decimal.IsWritten.head (h : d.IsWritten cs) : ∀ c ∈ cs.head?, c ≠ '-' ∧ c ≠ '+' := by
  obtain ⟨c, rest, rfl, hlow, -⟩ := h.exists_cons
  rintro d ⟨⟩
  constructor <;> rintro rfl <;> exact absurd hlow (by decide)

theorem ofText?_of_isWritten (hsign : IsSign negative sign) (h : d.IsWritten cs) :
    ofText? (sign ++ cs) = some (ofMagnitude? negative d.toMagnitude?) := by
  rw [ofText?_sign_append hsign h.head, unsigned?_of_isWritten h]

theorem IsInfinityWord.head (h : IsInfinityWord cs) : ∀ c ∈ cs.head?, c ≠ '-' ∧ c ≠ '+' := by
  rintro c hc
  have hlower : c.toLower = 'i' := by
    cases cs with
    | nil => cases hc
    | cons d rest =>
      cases hc
      rcases h with h | h
      all_goals
        simp only [lowered, List.map_cons, String.reduceToList] at h
        exact (List.cons.inj h).1
  constructor <;> rintro rfl <;> exact absurd hlower (by decide)

/-- The sign of a text can be told from what stands behind it. -/
theorem IsSign.append_inj {negative' : Bool} {sign' cs' : List Char} (hsign : IsSign negative sign)
    (hsign' : IsSign negative' sign') (hcs : ∀ c ∈ cs.head?, c ≠ '-' ∧ c ≠ '+')
    (hcs' : ∀ c ∈ cs'.head?, c ≠ '-' ∧ c ≠ '+') (h : sign ++ cs = sign' ++ cs') :
    negative = negative' ∧ cs = cs' := by
  cases hsign <;> cases hsign' <;> grind

theorem IsSign.bounds (hsign : IsSign negative sign) :
    ∀ c ∈ sign, '+'.toNat ≤ c.toNat ∧ c.toNat ≤ 'e'.toNat := by
  cases hsign <;> simp

/-- What is read as a number without a sign is a word for the infinite number or a decimal. -/
theorem exists_unsigned?_iff : (∃ n, unsigned? negative cs = some n ∧ n ≠ nan) ↔
    IsInfinityWord cs ∨ ∃ d : Decimal, d.IsWritten cs := by
  constructor
  · rintro ⟨n, hread, hn⟩
    rw [unsigned?] at hread
    split at hread
    next hword => exact .inl (by simpa [IsInfinityWord] using hword)
    next =>
      split at hread
      next =>
        cases hread
        exact absurd rfl hn
      next =>
        obtain ⟨d, hd, -⟩ := Option.map_eq_some_iff.1 hread
        exact .inr ⟨d, decimal?_eq_some_iff.1 hd⟩
  · rintro (hword | ⟨d, hd⟩)
    · refine ⟨infinite negative, ?_, nofun⟩
      rw [unsigned?]
      exact if_pos (by simpa [IsInfinityWord] using hword)
    · refine ⟨_, unsigned?_of_isWritten hd, ?_⟩
      cases d.toMagnitude? <;> nofun

/-- The texts that are read as numbers: words for the infinite number and decimals, with an optional
sign. -/
theorem exists_ofText?_iff : (∃ n, ofText? cs = some n ∧ n ≠ nan) ↔
    ∃ negative sign word, IsSign negative sign ∧ cs = sign ++ word ∧
      (IsInfinityWord word ∨ ∃ d : Decimal, d.IsWritten word) := by
  constructor
  · intro h
    obtain ⟨negative, sign, word, hsign, hcs, hread⟩ := exists_sign cs
    rw [hread] at h
    exact ⟨negative, sign, word, hsign, hcs, exists_unsigned?_iff.1 h⟩
  · rintro ⟨negative, sign, word, hsign, rfl, hword⟩
    have hhead : ∀ c ∈ word.head?, c ≠ '-' ∧ c ≠ '+' := by
      rcases hword with hinfinity | ⟨d, hd⟩
      · exact hinfinity.head
      · exact hd.head
    rw [ofText?_sign_append hsign hhead]
    exact exists_unsigned?_iff.2 hword

/-- The text of a finite number is its sign and a decimal of its magnitude. -/
theorem exists_sign_isWritten_text (negative : Bool) (x : Magnitude) :
    ∃ sign cs, ∃ d : Decimal, IsSign negative sign ∧ d.IsWritten cs ∧
      d.toMagnitude? = some x ∧ (finite negative x).text.toList = sign ++ cs := by
  obtain ⟨d, hwritten, hvalue⟩ := x.shortest.exists_isWritten_text
  rw [Magnitude.toMagnitude?_shortest] at hvalue
  rw [text, String.toList_append]
  cases negative with
  | false => exact ⟨_, _, d, .absent, hwritten, hvalue, rfl⟩
  | true => exact ⟨_, _, d, .minus, hwritten, hvalue, rfl⟩

/-- A finite number is read back from its text. -/
theorem ofText?_text (negative : Bool) (x : Magnitude) :
    ofText? (finite negative x).text.toList = some (finite negative x) := by
  obtain ⟨sign, cs, d, hsign, hwritten, hvalue, htext⟩ := exists_sign_isWritten_text negative x
  rw [htext, ofText?_of_isWritten hsign hwritten, hvalue]
  rfl

/-- The text of an integer is its sign and its digits. -/
theorem exists_sign_toString (z : Int) : ∃ sign, IsSign (decide (z < 0)) sign ∧
    (toString z).toList = sign ++ Nat.toDigits 10 z.natAbs := by
  rw [Int.toString_eq_repr, Int.repr_eq_if]
  split
  next h =>
    have habs : z.toNat = z.natAbs := by omega
    rw [decide_eq_false (Int.not_lt.2 h), Nat.toList_repr, habs]
    exact ⟨[], .absent, rfl⟩
  next h =>
    have habs : (-z).toNat = z.natAbs := by omega
    rw [decide_eq_true (Int.not_le.1 h), String.toList_append, Nat.toList_repr, habs]
    exact ⟨['-'], .minus, rfl⟩

theorem isWritten_toDigits (n : Nat) : Decimal.IsWritten ⟨n, 0⟩ (Nat.toDigits 10 n) := by
  have hwritten := Decimal.isWritten_digits Nat.toDigits_ne_nil (areDigits_toDigits n)
  rwa [digitsValue_toDigits] at hwritten

theorem toString_eq_toString_iff {a b : Int} : toString a = toString b ↔ a = b := by
  constructor
  · intro h
    obtain ⟨sign, hsign, ha⟩ := exists_sign_toString a
    obtain ⟨sign', hsign', hb⟩ := exists_sign_toString b
    rw [h, hb] at ha
    obtain ⟨hnegative, hdigits⟩ := hsign'.append_inj hsign (isWritten_toDigits _).head
      (isWritten_toDigits _).head ha
    have habs : b.natAbs = a.natAbs := by
      rw [← digitsValue_toDigits b.natAbs, hdigits, digitsValue_toDigits]
    have hsame : b < 0 ↔ a < 0 := decide_eq_decide.1 hnegative
    omega
  · exact congrArg toString

end Number

end SubmissionGrader
