import SubmissionGrader.Text.Units
import Mathlib.Data.List.Basic

/-!
# Texts in UTF-16

`IsUtf16` is the encoding of characters by 16-bit units as a relation: one unit for a character, or
a pair of surrogates that share its bits. The units of a text are the ones that stand in it to the
characters of the text (`isUtf16_iff`).
-/

namespace SubmissionGrader.Text

/-- The 16-bit units of characters. A character beyond the first 65536 is a pair of surrogates, the
high one for the upper ten bits of its distance from them and the low one for the others. -/
inductive IsUtf16 : List Char → List Nat → Prop
  | nil : IsUtf16 [] []
  | single {c : Char} {cs : List Char} {us : List Nat} (hc : c.toNat < 0x10000)
      (h : IsUtf16 cs us) : IsUtf16 (c :: cs) (c.toNat :: us)
  | pair {c : Char} {cs : List Char} {high low : Nat} {us : List Nat}
      (hhigh : 0xD800 ≤ high ∧ high < 0xDC00) (hlow : 0xDC00 ≤ low ∧ low < 0xE000)
      (hc : c.toNat = 0x10000 + (high - 0xD800) * 0x400 + (low - 0xDC00))
      (h : IsUtf16 cs us) : IsUtf16 (c :: cs) (high :: low :: us)

theorem isUtf16_charUnits_append (c : Char) {cs : List Char} {us : List Nat} (h : IsUtf16 cs us) :
    IsUtf16 (c :: cs) (charUnits c ++ us) := by
  have hlt : c.toNat < 0x110000 := by
    rcases c.valid with hlow | hhigh
    · exact Nat.lt_trans hlow (by decide)
    · exact hhigh.2
  rw [charUnits]
  split
  next hc => exact .single hc h
  next hc => exact .pair (by omega) (by omega) (by omega) h

/-- The units of a text are those of its characters, and no others are. -/
theorem isUtf16_iff {cs : List Char} {us : List Nat} :
    IsUtf16 cs us ↔ us = cs.flatMap charUnits := by
  constructor
  · intro h
    induction h with
    | nil => rfl
    | single hc _ ih => rw [List.flatMap_cons, ← ih, charUnits, if_pos hc, List.singleton_append]
    | @pair c cs high low us hhigh hlow hc _ ih =>
      have hupper : 0xD800 + (c.toNat - 0x10000) / 0x400 = high := by omega
      have hlower : 0xDC00 + (c.toNat - 0x10000) % 0x400 = low := by omega
      rw [List.flatMap_cons, ← ih, charUnits, if_neg (by omega), hupper, hlower]
      rfl
  · rintro rfl
    induction cs with
    | nil => exact .nil
    | cons c cs ih => exact isUtf16_charUnits_append c ih

end SubmissionGrader.Text
