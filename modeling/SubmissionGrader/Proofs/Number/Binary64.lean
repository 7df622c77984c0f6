import Mathlib.Algebra.Group.Nat.Defs
import SubmissionGrader.Number.Binary64

/-!
# Order and rounding of floating point numbers

Numbers are compared by their levels, so the order of two of them is turned round with them
(`compare?_swap`), and there is none exactly where one of them is `nan` (`compare?_eq_none_iff`).
Rounding depends on the value of a quotient and not on how it is written as one
(`Magnitude.ofQuotient?_mul_right`), and it keeps every magnitude (`Magnitude.ofQuotient?_eq_self`),
so natural numbers of at most 53 bits are exact (`level?_ofNat`). Which natural number a number is
can be read off its place on the line (`toNat?_eq_some_iff`).
-/

namespace SubmissionGrader

/-! ## Order -/

namespace Binary64

variable {a b : Binary64}

theorem level?_eq_none_iff : a.level? = none ↔ a = nan := by
  cases a <;> simp [level?]

theorem compare?_swap (a b : Binary64) : b.compare? a = (a.compare? b).map Ordering.swap := by
  cases ha : a.level? with
  | none => cases hb : b.level? <;> simp [compare?, ha, hb]
  | some m =>
    cases hb : b.level? with
    | none => simp [compare?, ha, hb]
    | some n =>
      have hswap : compare n m = (compare m n).swap := Std.OrientedOrd.eq_swap
      simp [compare?, ha, hb, hswap]

theorem compare?_eq_none_iff : a.compare? b = none ↔ a = nan ∨ b = nan := by
  rw [← level?_eq_none_iff, ← level?_eq_none_iff]
  cases ha : a.level? <;> cases hb : b.level? <;> simp [compare?, ha, hb]

theorem equals_iff : a.equals b = true ↔ a.compare? b = some .eq := by
  rw [equals, beq_iff_eq]

/-- Numbers are equal if they have one place on the line. -/
theorem equals_iff_level? : a.equals b = true ↔ ∃ n, a.level? = some n ∧ b.level? = some n := by
  rw [equals_iff, compare?]
  cases a.level? with
  | none => simp
  | some m =>
    cases b.level? with
    | none => simp
    | some n => simp [@eq_comm Int n m]

theorem equals_comm (a b : Binary64) : a.equals b = b.equals a := by
  rw [Bool.eq_iff_iff, equals_iff, equals_iff, compare?_swap a b]
  cases a.compare? b with
  | none => rfl
  | some o => cases o <;> simp

/-- A number is equal to itself unless it is not a number. -/
theorem equals_self_iff : a.equals a = true ↔ a ≠ nan := by
  rw [equals_iff, ne_eq, ← level?_eq_none_iff]
  cases ha : a.level? <;> simp [compare?, ha]

end Binary64

/-! ## Rounding -/

/-- Rounding depends on the value of the quotient only. -/
theorem roundQuotient_mul_right {k : Nat} (hk : 0 < k) (n d : Nat) :
    roundQuotient (n * k) (d * k) = roundQuotient n d := by
  have hquotient : n * k / (d * k) = n / d := Nat.mul_div_mul_right n d hk
  have hremainder : 2 * (n * k % (d * k)) = 2 * (n % d) * k := by
    rw [Nat.mul_mod_mul_right, Nat.mul_assoc]
  simp only [roundQuotient, hquotient, hremainder, Nat.mul_lt_mul_right hk,
    Nat.mul_left_inj (Nat.pos_iff_ne_zero.1 hk)]

namespace Magnitude

theorem stepsInOne_pos : 0 < stepsInOne := by
  rw [stepsInOne, Nat.one_shiftLeft]
  exact Nat.two_pow_pos 1074

theorem steps_eq (x : Magnitude) : x.steps = x.mantissa * 2 ^ x.scale := Nat.shiftLeft_eq _ _

theorem steps_eq_zero_iff {x : Magnitude} : x.steps = 0 ↔ x = zero := by
  constructor
  · intro h
    have hmantissa : x.mantissa = 0 := by
      rw [steps_eq] at h
      exact (Nat.mul_eq_zero.1 h).resolve_right (Nat.ne_of_gt (Nat.two_pow_pos _))
    have hscale : x.scale = 0 := by
      rcases x.normal with hscale | hnormal
      · exact hscale
      · rw [hmantissa] at hnormal
        exact absurd hnormal (by decide)
    obtain ⟨mantissa, scale, _, _, _⟩ := x
    subst hmantissa hscale
    rfl
  · rintro rfl
    rfl

theorem steps_lt {x : Magnitude} {k : Nat} (h : x.scale ≤ k) : x.steps < Nat.pow 2 (53 + k) := by
  have hmantissa : x.mantissa < 2 ^ 53 := x.mantissa_lt
  rw [steps_eq, Nat.pow_eq, Nat.pow_add]
  exact Nat.mul_lt_mul_of_lt_of_le hmantissa (Nat.pow_le_pow_right (by decide) h)
    (Nat.two_pow_pos _)

/-- The scale of a magnitude can be read off its number of steps. -/
theorem log2_steps (x : Magnitude) : x.steps.log2 - 52 = x.scale := by
  have hlt : x.mantissa < 2 ^ 53 := x.mantissa_lt
  rcases x.normal with hscale | hnormal
  · have hsteps : x.steps < 2 ^ 53 := by rwa [steps_eq, hscale, Nat.pow_zero, Nat.mul_one]
    rcases Nat.eq_zero_or_pos x.steps with hzero | hpos
    · rw [hzero, hscale]
      rfl
    · have hlog := (Nat.log2_lt (Nat.ne_of_gt hpos)).2 hsteps
      omega
  · have hmantissa : 2 ^ 52 ≤ x.mantissa := hnormal
    have hne : x.steps ≠ 0 := by
      rw [steps_eq]
      have hpos : 0 < x.mantissa := Nat.lt_of_lt_of_le (by decide) hmantissa
      exact Nat.ne_of_gt (Nat.mul_pos hpos (Nat.two_pow_pos _))
    have hlow : 2 ^ (52 + x.scale) ≤ x.steps := by
      rw [steps_eq, Nat.pow_add]
      exact Nat.mul_le_mul_right _ hmantissa
    have hhigh : x.steps < 2 ^ (53 + x.scale) := by
      rw [steps_eq, Nat.pow_add]
      exact Nat.mul_lt_mul_of_pos_right hlt (Nat.two_pow_pos _)
    have hle := (Nat.le_log2 hne).2 hlow
    have hlog := (Nat.log2_lt hne).2 hhigh
    omega

theorem ofParts?_eq_self (x : Magnitude) : ofParts? x.mantissa x.scale = some x :=
  dif_pos ⟨x.mantissa_lt, x.normal, x.scale_le⟩

theorem floor_mul_stepsInOne {x : Magnitude} (h : x.isWhole = true) :
    x.floor * stepsInOne = x.steps :=
  Nat.div_mul_cancel (Nat.dvd_of_mod_eq_zero (beq_iff_eq.1 h))

/-- A quotient that is a magnitude is rounded to itself. -/
theorem ofQuotient?_eq_self {x : Magnitude} {n d : Nat} (hd : 0 < d)
    (h : n * stepsInOne = d * x.steps) : ofQuotient? n d = some x := by
  have hscale : (n * stepsInOne / d).log2 - 52 = x.scale := by
    rw [h, Nat.mul_div_cancel_left _ hd, log2_steps]
  have hmantissa : roundQuotient (n * stepsInOne) (d <<< x.scale) = x.mantissa := by
    have hdenominator : 0 < d * 2 ^ x.scale := Nat.mul_pos hd (Nat.two_pow_pos _)
    rw [h, steps_eq, Nat.shiftLeft_eq, Nat.mul_comm x.mantissa, ← Nat.mul_assoc,
      roundQuotient_mul_left hdenominator]
  simp only [ofQuotient?, hscale, hmantissa]
  rw [if_neg (Nat.ne_of_lt x.mantissa_lt), ofParts?_eq_self]

/-- The nearest magnitude depends on the value of the quotient only. -/
theorem ofQuotient?_mul_right {k : Nat} (hk : 0 < k) (n d : Nat) :
    ofQuotient? (n * k) (d * k) = ofQuotient? n d := by
  have hsteps : n * k * stepsInOne = n * stepsInOne * k := Nat.mul_right_comm _ _ _
  have hquotient : n * stepsInOne * k / (d * k) = n * stepsInOne / d :=
    Nat.mul_div_mul_right _ _ hk
  have hround (scale : Nat) : roundQuotient (n * stepsInOne * k) ((d * k) <<< scale) =
      roundQuotient (n * stepsInOne) (d <<< scale) := by
    rw [Nat.shiftLeft_eq, Nat.shiftLeft_eq, Nat.mul_right_comm d k, roundQuotient_mul_right hk]
  simp only [ofQuotient?, hsteps, hquotient, hround]

end Magnitude

/-! ## Natural numbers -/

namespace Magnitude

/-- Natural numbers of at most 53 bits are magnitudes. -/
theorem exists_steps_eq {n : Nat} (h : n < 2 ^ 53) :
    ∃ x : Magnitude, x.steps = n * stepsInOne := by
  rcases Nat.eq_zero_or_pos n with rfl | hpos
  · exact ⟨zero, by rw [Nat.zero_mul]; rfl⟩
  · -- The number is doubled until it has as many bits as a mantissa.
    have hlog : n.log2 < 53 := (Nat.log2_lt (Nat.ne_of_gt hpos)).2 h
    obtain ⟨k, hk⟩ : ∃ k, 52 = n.log2 + k := Nat.exists_eq_add_of_le (by omega)
    obtain ⟨l, hl⟩ : ∃ l, 1074 = k + l := Nat.exists_eq_add_of_le (by omega)
    have hlow : 2 ^ 52 ≤ n * 2 ^ k := by
      rw [hk, Nat.pow_add]
      exact Nat.mul_le_mul_right _ (Nat.log2_self_le (Nat.ne_of_gt hpos))
    have hhigh : n * 2 ^ k < 2 ^ 53 := by
      have hbits : 53 = n.log2 + 1 + k := by omega
      rw [hbits, Nat.pow_add]
      exact Nat.mul_lt_mul_of_pos_right Nat.lt_log2_self (Nat.two_pow_pos k)
    have hone : stepsInOne = 2 ^ k * 2 ^ l := by
      rw [stepsInOne, Nat.one_shiftLeft, hl, Nat.pow_add]
    refine ⟨⟨n * 2 ^ k, l, hhigh, .inr hlow, by omega⟩, ?_⟩
    rw [steps_eq, hone, Nat.mul_assoc]

end Magnitude

namespace Binary64

variable {a : Binary64} {n : Nat}

def isWhole : Binary64 → Bool
  | finite _ x => x.isWhole
  | _ => false

theorem exists_ofNat_eq (h : n < 2 ^ 53) :
    ∃ x : Magnitude, ofNat n = finite false x ∧ x.steps = n * Magnitude.stepsInOne := by
  obtain ⟨x, hx⟩ := Magnitude.exists_steps_eq h
  have hself : Magnitude.ofQuotient? n 1 = some x :=
    Magnitude.ofQuotient?_eq_self Nat.one_pos (by rw [hx, Nat.one_mul])
  exact ⟨x, by rw [ofNat, ofQuotient, hself, ofMagnitude?], hx⟩

theorem level?_ofNat (h : n < 2 ^ 53) :
    (ofNat n).level? = some (n * Magnitude.stepsInOne : Int) := by
  obtain ⟨x, hnumber, hsteps⟩ := exists_ofNat_eq h
  rw [hnumber, level?, hsteps]
  rfl

theorem toNat?_eq_some_iff : a.toNat? = some n ↔
    a.isWhole = true ∧ a.level? = some (n * Magnitude.stepsInOne : Int) := by
  cases a with
  | nan => simp [toNat?, isWhole]
  | infinite negative => simp [toNat?, isWhole]
  | finite negative x =>
    rw [toNat?, isWhole, level?, ← Int.natCast_mul]
    cases hwhole : x.isWhole with
    | false => simp
    | true =>
      have hfloor : x.floor = n ↔ x.steps = n * Magnitude.stepsInOne := by
        rw [← Magnitude.floor_mul_stepsInOne hwhole,
          Nat.mul_left_inj (Nat.ne_of_gt Magnitude.stepsInOne_pos)]
      -- A negative number can still be zero.
      generalize n * Magnitude.stepsInOne = m at hfloor ⊢
      cases negative with
      | false => simpa using hfloor.trans Int.natCast_inj.symm
      | true =>
        have hneg : -(x.steps : Int) = m ↔ x.steps = 0 ∧ x.steps = m := by omega
        simp [hfloor, hneg]

/-- A number is a natural number if and only if it is whole and not negative. -/
theorem exists_toNat?_iff : (∃ n, a.toNat? = some n) ↔
    a.isWhole = true ∧ ∃ z : Int, a.level? = some z ∧ 0 ≤ z := by
  cases a with
  | nan => simp [toNat?, isWhole]
  | infinite negative => simp [toNat?, isWhole]
  | finite negative x =>
    rw [toNat?, isWhole, level?]
    cases negative <;> cases x.isWhole <;> simp

theorem toNat?_ofNat (h : n < 2 ^ 53) : (ofNat n).toNat? = some n := by
  have hwhole : (ofNat n).isWhole = true := by
    obtain ⟨x, hnumber, hsteps⟩ := exists_ofNat_eq h
    rw [hnumber, isWhole, Magnitude.isWhole, hsteps, Nat.mul_mod_left]
    rfl
  exact toNat?_eq_some_iff.2 ⟨hwhole, level?_ofNat h⟩

end Binary64

end SubmissionGrader
