import SubmissionGrader.Proofs.Json.Reading
import SubmissionGrader.Proofs.Lists

/-!
# Reading natural numbers

A natural number is written in decimal digits without leading zeros. The digits make up a numeral
(`numeral_toDigits`), so a record with such numbers can be read back, and they denote the number
again as long as it is within the limit of the reader (`natural?_toRaw_natural`).
-/

namespace SubmissionGrader.Json

/-- Only zero is written with a zero in front. -/
theorem head?_toDigits_ne_zero {n : Nat} (h : 0 < n) : (Nat.toDigits 10 n).head? ≠ some '0' := by
  -- The number without its last digit is positive too, unless that digit is all of it.
  induction n using Nat.strongRecOn with
  | ind n ih =>
    rw [Nat.toDigits_eq_if (by decide)]
    split
    next hsmall =>
      have hdigit : ∀ k < 10, 0 < k → Nat.digitChar k ≠ '0' := by decide
      simpa using hdigit n hsmall h
    next hlarge =>
      have hfront := ih (n / 10) (by omega) (by omega)
      rw [List.head?_append]
      cases hhead : (Nat.toDigits 10 (n / 10)).head? with
      | none => exact absurd (List.head?_eq_none_iff.1 hhead) Nat.toDigits_ne_nil
      | some c => rwa [hhead] at hfront

theorem isDigit_of_mem_toDigits {n : Nat} {c : Char} (h : c ∈ Nat.toDigits 10 n) :
    c.isDigit = true :=
  Nat.isDigit_of_mem_toDigits (by decide) (by decide) h

/-- A number is written with a digit in front. -/
theorem exists_toDigits_eq_cons (n : Nat) :
    ∃ c cs, Nat.toDigits 10 n = c :: cs ∧ c.isDigit = true := by
  cases hdigits : Nat.toDigits 10 n with
  | nil => exact absurd hdigits Nat.toDigits_ne_nil
  | cons c cs =>
    have hmem : c ∈ Nat.toDigits 10 n := by simp [hdigits]
    exact ⟨c, cs, rfl, isDigit_of_mem_toDigits hmem⟩

section Delimited

variable {rest : List Char}

theorem Delimited.not_isDigit (h : Delimited rest) : ∀ c ∈ rest.head?, c.isDigit = false := by
  have hends : ∀ c ∈ [',', ']', '\x7d'], c.isDigit = false := by simp
  exact fun c hc => hends c (h c hc)

theorem Delimited.fractionPart? (h : Delimited rest) :
    Json.fractionPart? rest = some ([], rest) := by
  cases rest with
  | nil => rfl
  | cons c rest =>
    have hc : c ≠ '.' := by
      rintro rfl
      exact absurd (h '.' rfl) (by decide)
    rw [Json.fractionPart?.eq_2]
    rintro _ heq
    exact hc (List.cons.inj heq).1

theorem Delimited.exponentPart? (h : Delimited rest) :
    Json.exponentPart? rest = some ([], rest) := by
  cases rest with
  | nil => rfl
  | cons c rest =>
    have hends : ∀ c ∈ [',', ']', '\x7d'], ¬(c == 'e' || c == 'E') = true := by simp
    rw [Json.exponentPart?.eq_def]
    exact if_neg (hends c (h c rfl))

end Delimited

/-- Digits are taken up to the end of the number. -/
theorem digits?_append {digits rest : List Char} (hne : digits ≠ [])
    (hdigits : ∀ c ∈ digits, c.isDigit = true) (hrest : Delimited rest) :
    digits? (digits ++ rest) = some (digits, rest) := by
  have htake := Lists.takeWhile_append_eq hdigits hrest.not_isDigit
  have hdrop := Lists.dropWhile_append_eq hdigits hrest.not_isDigit
  simp [digits?, htake, hdrop, hne]

theorem wholePart?_toDigits (n : Nat) {rest : List Char} (hrest : Delimited rest) :
    wholePart? (Nat.toDigits 10 n ++ rest) = some (Nat.toDigits 10 n, rest) := by
  rcases Nat.eq_zero_or_pos n with rfl | hpos
  · have hnone : rest.head?.any Char.isDigit = false := by
      cases hhead : rest.head? with
      | none => rfl
      | some c => exact hrest.not_isDigit c hhead
    rw [Nat.toDigits_zero, List.singleton_append, wholePart?, hnone]
    rfl
  · have hfront := head?_toDigits_ne_zero hpos
    have hdigits : digits? (Nat.toDigits 10 n ++ rest) = some (Nat.toDigits 10 n, rest) :=
      digits?_append Nat.toDigits_ne_nil (fun c => isDigit_of_mem_toDigits) hrest
    rw [wholePart?.eq_2 _ fun behind heq => ?_, hdigits]
    obtain ⟨c, cs, hcs, -⟩ := exists_toDigits_eq_cons n
    rw [hcs] at heq hfront
    exact hfront (congrArg some (List.cons.inj heq).1)

/-- The digits of a natural number are read back as a number. -/
theorem numeral_toDigits (n : Nat) : Numeral (Nat.toDigits 10 n) where
  front := by
    obtain ⟨c, cs, hcs, hdigit⟩ := exists_toDigits_eq_cons n
    exact ⟨c, cs, hcs, .inr hdigit⟩
  read := by
    intro rest hrest
    have hunsigned : unsignedNumber? (Nat.toDigits 10 n ++ rest) =
        some (Nat.toDigits 10 n, rest) := by
      simp [unsignedNumber?, wholePart?_toDigits n hrest, hrest.fractionPart?,
        hrest.exponentPart?]
    rw [number?.eq_2 _ fun behind heq => ?_, hunsigned]
    obtain ⟨c, cs, hcs, hdigit⟩ := exists_toDigits_eq_cons n
    rw [hcs] at heq
    rw [(List.cons.inj heq).1] at hdigit
    exact absurd hdigit (by decide)
  line h := absurd (isDigit_of_mem_toDigits h) (by decide)

theorem readable_natural (n : Nat) : Readable (natural n) := by
  rw [natural, Readable, Nat.toString_eq_ofList_toDigits, String.toList_ofList]
  exact numeral_toDigits n

/-- A natural number within the limit is read back. -/
theorem natural?_toRaw_natural {n limit : Nat} (h : n ≤ limit) :
    Raw.natural? limit (toRaw (natural n)) = some n := by
  have hdigits : (Nat.toDigits 10 n).all Char.isDigit = true :=
    List.all_eq_true.2 fun c => isDigit_of_mem_toDigits
  have hvalue : (Nat.toDigits 10 n).foldl (fun n c => 10 * n + (c.toNat - '0'.toNat)) 0 = n := by
    rw [← Nat.ofDigitChars_eq_foldl, Nat.ofDigitChars_ten_toDigits]
  rw [natural, toRaw, Nat.toString_eq_ofList_toDigits, String.toList_ofList, Raw.natural?,
    if_pos hdigits]
  dsimp only
  rw [hvalue, if_pos h]

theorem le_of_natural?_eq_some {n limit : Nat} {raw : Raw} (h : Raw.natural? limit raw = some n) :
    n ≤ limit := by
  cases raw with
  | number digits =>
    rw [Raw.natural?] at h
    split at h
    next =>
      dsimp only at h
      split at h
      next hle =>
        cases h
        exact hle
      next => cases h
    next => cases h
  | _ => cases h

end SubmissionGrader.Json
