import SubmissionGrader.Number.Binary64

/-!
# Decimal text of numbers

Reading decimal text (`Binary64.ofText?`), and writing a number with the fewest decimal digits that
read back to it (`Magnitude.shortest`), always in positional notation (`Binary64.text`).
-/

namespace SubmissionGrader

structure Decimal where
  digits : Nat
  exponent : Int
  deriving DecidableEq, Repr

def decimalLength (n : Nat) : Nat := (Nat.toDigits 10 n).length

namespace Decimal

/-- The magnitude nearest to a decimal, or `none` if it is too large. Decimals far outside the
range are settled by their length alone. -/
def toMagnitude? (d : Decimal) : Option Magnitude :=
  let length := decimalLength d.digits + d.exponent
  if d.digits = 0 || length < -330 then some .zero
  else if length > 310 then none
  else Magnitude.ofQuotient? (d.digits * Nat.pow 10 d.exponent.toNat)
    (Nat.pow 10 (-d.exponent).toNat)

def stripZeros : Nat → Decimal → Decimal
  | 0, d => d
  | fuel + 1, d =>
    if d.digits % 10 = 0 && d.digits ≠ 0 then stripZeros fuel ⟨d.digits / 10, d.exponent + 1⟩
    else d

/-- Positional notation: no exponent, and no point without a fraction. -/
def text (d : Decimal) : String :=
  let digits := Nat.toDigits 10 d.digits
  if d.exponent ≥ 0 then
    String.ofList (digits ++ List.replicate (if d.digits = 0 then 0 else d.exponent.toNat) '0')
  else
    let places := (-d.exponent).toNat
    let padded := List.replicate (places + 1 - digits.length) '0' ++ digits
    let whole := padded.length - places
    String.ofList (padded.take whole ++ '.' :: padded.drop whole)

end Decimal

namespace Magnitude

/-- The number `n` for which the magnitude lies between `10 ^ (n - 1)` and `10 ^ n`. -/
def decimalScale (x : Magnitude) : Int :=
  decimalLength (x.steps * Nat.pow 10 400 / stepsInOne) - (400 : Int)

/-- The nearest decimal with the given exponent that reads back to the magnitude, of the two
that stand around it. -/
def onGrid? (x : Magnitude) (exponent : Int) : Option Decimal :=
  let numerator := x.steps * Nat.pow 10 (-exponent).toNat
  let denominator := stepsInOne * Nat.pow 10 exponent.toNat
  let below : Decimal := ⟨numerator / denominator, exponent⟩
  let above : Decimal := ⟨numerator / denominator + 1, exponent⟩
  let candidates :=
    if 2 * (numerator % denominator) ≤ denominator then [below, above] else [above, below]
  candidates.find? fun d => d.toMagnitude? == some x

def exactDecimal (x : Magnitude) : Decimal := ⟨x.steps * Nat.pow 5 1074, -1074⟩

/-- The decimal with the fewest digits that reads back to the magnitude. -/
def shortest (x : Magnitude) : Decimal :=
  if x.steps = 0 then ⟨0, 0⟩
  else
    let found := (List.range 17).findSome? fun (n : Nat) => x.onGrid? (x.decimalScale - (n + 1))
    let d := found.getD x.exactDecimal
    d.stripZeros (decimalLength d.digits)

end Magnitude

namespace Binary64

/-- The fewest digits that read back, in positional notation. -/
def text : Binary64 → String
  | nan => "NaN"
  | infinite negative => if negative then "-inf" else "inf"
  | finite negative x => (if negative then "-" else "") ++ x.shortest.text

/-- A number that is not negative, with one decimal place; a half goes to the even digit. -/
def textToTenth : Binary64 → String
  | finite _ x => (Decimal.mk (roundQuotient (x.steps * 10) Magnitude.stepsInOne) (-1)).text
  | other => other.text

def digitsValue (digits : List Char) : Nat :=
  digits.foldl (fun n c => 10 * n + (c.toNat - '0'.toNat)) 0

/-- The exponent of a number, with its sign. The whole text has to be read. -/
def exponentOf? : List Char → Option Int
  | [] => some 0
  | e :: rest =>
    if e == 'e' || e == 'E' then
      let (negative, digits) : Bool × List Char := match rest with
        | '-' :: digits => (true, digits)
        | '+' :: digits => (false, digits)
        | digits => (false, digits)
      if !digits.isEmpty && digits.all Char.isDigit then
        some (if negative then -(digitsValue digits : Int) else digitsValue digits)
      else none
    else none

/-- A decimal without a sign: digits with at most one point among them, and at least one digit,
then perhaps an exponent. -/
def decimal? (cs : List Char) : Option Decimal :=
  let whole := cs.takeWhile Char.isDigit
  let (fraction, rest) := match cs.dropWhile Char.isDigit with
    | '.' :: rest => (rest.takeWhile Char.isDigit, rest.dropWhile Char.isDigit)
    | rest => ([], rest)
  if whole.isEmpty && fraction.isEmpty then none
  else (exponentOf? rest).map fun e =>
    ⟨digitsValue (whole ++ fraction), e - fraction.length⟩

def lowered (cs : List Char) : List Char := cs.map Char.toLower

/-- A number without a sign. Beside decimals there are the words `inf`, `infinity` and `nan` in
any case. -/
def unsigned? (negative : Bool) (cs : List Char) : Option Binary64 :=
  let word := lowered cs
  if word == "inf".toList || word == "infinity".toList then some (infinite negative)
  else if word == "nan".toList then some nan
  else (decimal? cs).map fun d => ofMagnitude? negative d.toMagnitude?

def ofText? (cs : List Char) : Option Binary64 :=
  match cs with
  | '-' :: rest => unsigned? true rest
  | '+' :: rest => unsigned? false rest
  | _ => unsigned? false cs

end Binary64

end SubmissionGrader
