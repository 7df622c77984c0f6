/-!
# Binary floating point numbers

The numbers of the checker language and of all reports: binary floating point of 64 bits. A finite
number is a sign and a magnitude, a magnitude is a whole number of steps of `2 ^ -1074`, and every
magnitude has one form. `ofQuotient?` rounds a quotient to the nearest magnitude, ties to the even
mantissa. `level?` places the numbers on a line, from which equality and order are read off.
-/

namespace SubmissionGrader

/-- The nearest natural number to a quotient; of two equally near ones the even one. -/
def roundQuotient (numerator denominator : Nat) : Nat :=
  let quotient := numerator / denominator
  let twice := 2 * (numerator % denominator)
  if twice < denominator ∨ twice = denominator ∧ quotient % 2 = 0 then quotient else quotient + 1

theorem roundQuotient_mul_left {d : Nat} (h : 0 < d) (n : Nat) : roundQuotient (d * n) d = n := by
  simp [roundQuotient, Nat.mul_div_cancel_left n h, h]

/-- `mantissa * 2 ^ scale` steps of `2 ^ -1074`. The mantissa has at most 53 bits, and no fewer
unless the scale is zero. -/
structure Magnitude where
  mantissa : Nat
  scale : Nat
  mantissa_lt : mantissa < 1 <<< 53
  normal : scale = 0 ∨ 1 <<< 52 ≤ mantissa
  scale_le : scale ≤ 2045
  deriving DecidableEq, Repr

namespace Magnitude

def stepsInOne : Nat := 1 <<< 1074

def steps (x : Magnitude) : Nat := x.mantissa <<< x.scale

def zero : Magnitude := ⟨0, 0, by decide, .inl rfl, by decide⟩

/-- The magnitude with the given mantissa and scale, if they are in range. -/
def ofParts? (mantissa scale : Nat) : Option Magnitude :=
  if h : mantissa < 1 <<< 53 ∧ (scale = 0 ∨ 1 <<< 52 ≤ mantissa) ∧ scale ≤ 2045 then
    some ⟨mantissa, scale, h.1, h.2.1, h.2.2⟩
  else none

def ofQuotient? (numerator denominator : Nat) : Option Magnitude :=
  let steps := numerator * stepsInOne
  let scale := (steps / denominator).log2 - 52
  let mantissa := roundQuotient steps (denominator <<< scale)
  if mantissa = 1 <<< 53 then ofParts? (1 <<< 52) (scale + 1) else ofParts? mantissa scale

def floor (x : Magnitude) : Nat := x.steps / stepsInOne

def isWhole (x : Magnitude) : Bool := x.steps % stepsInOne == 0

end Magnitude

inductive Binary64 where
  | nan
  | infinite (negative : Bool)
  | finite (negative : Bool) (magnitude : Magnitude)
  deriving DecidableEq, Repr

namespace Binary64

/-- The number with the given sign and magnitude, where no magnitude is an infinite one. -/
def ofMagnitude? (negative : Bool) : Option Magnitude → Binary64
  | some x => finite negative x
  | none => infinite negative

def ofQuotient (numerator denominator : Nat) : Binary64 :=
  ofMagnitude? false (Magnitude.ofQuotient? numerator denominator)

def ofNat (n : Nat) : Binary64 := ofQuotient n 1

def zero : Binary64 := finite false Magnitude.zero

def ofBool (b : Bool) : Binary64 := ofNat b.toNat

/-- More steps than any finite number has. -/
def infiniteLevel : Nat := 1 <<< 2098

/-- The place of a number on the line, in steps; infinite numbers stand beyond all others. -/
def level? : Binary64 → Option Int
  | nan => none
  | infinite negative => some (if negative then -infiniteLevel else infiniteLevel)
  | finite negative x => some (if negative then -x.steps else x.steps)

/-- The order of two numbers; there is none if either is not a number. -/
def compare? (a b : Binary64) : Option Ordering := do return compare (← a.level?) (← b.level?)

/-- Equality of numbers: no `nan` is equal to anything, and the two zeros are equal. -/
def equals (a b : Binary64) : Bool := compare? a b == some .eq

/-- Whether the number is neither zero nor `nan`. -/
def isTruthy (a : Binary64) : Bool := a.level?.any (· ≠ 0)

def toNat? : Binary64 → Option Nat
  | finite negative x => if x.isWhole && (!negative || x.steps == 0) then some x.floor else none
  | _ => none

def divide : Binary64 → Binary64 → Binary64
  | finite false x, finite false y =>
    if y.steps = 0 then (if x.steps = 0 then nan else infinite false)
    else ofQuotient x.steps y.steps
  | _, _ => nan

def multiply : Binary64 → Binary64 → Binary64
  | finite false x, finite false y =>
    ofQuotient (x.steps * y.steps) (Magnitude.stepsInOne * Magnitude.stepsInOne)
  | _, _ => nan

end Binary64

end SubmissionGrader
