import SubmissionGrader.Checker.Error
import SubmissionGrader.Text.Search
import SubmissionGrader.Text.Units

/-!
# Values of checkers

The values that expressions have, their conversions to numbers and texts, and the comparisons. A
list stands for its items joined by commas wherever a number or a text is asked for.
-/

namespace SubmissionGrader.Checker

inductive Value where
  | boolean (value : Bool)
  | number (value : Binary64)
  | text (value : String)
  | list (items : List String)
  | null
  | undefined
  deriving DecidableEq, Repr

def joined (items : List String) : String := ",".intercalate items

/-- The number that a text stands for: nothing is zero, and what is no number is `nan`. -/
def textNumber (s : String) : Binary64 :=
  match Text.trim s with
  | "" => .zero
  | "Infinity" | "+Infinity" => .infinite false
  | "-Infinity" => .infinite true
  | trimmed => (Binary64.ofText? trimmed.toList).getD .nan

def clampedToInt64 (n : Int) : Int := max Int64.minValue.toInt (min n Int64.maxValue.toInt)

/-- The text of a number. Whole numbers below `10 ^ 21` are written as integers of 64 bits. -/
def numberText : Binary64 → String
  | .nan => "NaN"
  | .infinite negative => if negative then "-Infinity" else "Infinity"
  | .finite negative x =>
    if x.isWhole && x.floor < Nat.pow 10 21 then
      toString (clampedToInt64 (if negative then -x.floor else x.floor))
    else (Binary64.finite negative x).text

/-- The natural number that a text is written as: digits, perhaps behind a plus sign. -/
def naturalOfText? (s : String) : Option Nat :=
  let digits := match s.toList with
    | '+' :: rest => rest
    | cs => cs
  if !digits.isEmpty && digits.all Char.isDigit then some (Binary64.digitsValue digits) else none

namespace Value

def type : Value → ValueType
  | boolean _ => .boolean
  | number _ => .number
  | text _ => .string
  | list _ => .array
  | null => .null
  | undefined => .undefined

/-- Whether a value counts as true. Every list does. -/
def isTruthy : Value → Bool
  | boolean b => b
  | number n => n.isTruthy
  | text s => !s.isEmpty
  | list _ => true
  | null | undefined => false

def toNumber : Value → Binary64
  | boolean b => .ofBool b
  | number n => n
  | text s => textNumber s
  | list items => textNumber (joined items)
  | null => .zero
  | undefined => .nan

def shown : Value → String
  | boolean b => if b then "true" else "false"
  | number n => numberText n
  | text s => s
  | list items => joined items
  | null => "null"
  | undefined => "undefined"

def isMissing : Value → Bool
  | null | undefined => true
  | _ => false

/-- The value with a boolean replaced by its number. -/
def withoutBoolean : Value → Value
  | boolean b => number (.ofBool b)
  | v => v

/-- Equality of values of one type. Lists are compared by their items. -/
def strictlyEquals : Value → Value → Bool
  | number a, number b => a.equals b
  | text a, text b => a == b
  | boolean a, boolean b => a == b
  | list a, list b => a == b
  | null, null | undefined, undefined => true
  | _, _ => false

/-- Equality of values that are neither missing nor boolean. A number decides against a text, and
either decides against a list. -/
def coercedEquals : Value → Value → Bool
  | number n, text s | text s, number n => (textNumber s).equals n
  | list items, number n | number n, list items => (textNumber (joined items)).equals n
  | list items, text s | text s, list items => joined items == s
  | a, b => strictlyEquals a b

/-- Equality after conversion. Missing values are equal to one another and to nothing else. -/
def looselyEquals (a b : Value) : Bool :=
  match a.isMissing, b.isMissing with
  | true, true => true
  | false, false => coercedEquals a.withoutBoolean b.withoutBoolean
  | _, _ => false

/-- The order of two values: that of two texts, else that of the numbers they stand for. -/
def compare? : Value → Value → Option Ordering
  | text a, text b => some (Text.compareUnits a b)
  | a, b => a.toNumber.compare? b.toNumber

end Value

def Comparison.holds (comparison : Comparison) (a b : Value) : Bool :=
  match comparison with
  | strictlyEqual => a.strictlyEquals b
  | strictlyUnequal => !a.strictlyEquals b
  | equal => a.looselyEquals b
  | unequal => !a.looselyEquals b
  | less => a.compare? b == some .lt
  | greater => a.compare? b == some .gt
  | atMost => (a.compare? b).any (· != .gt)
  | atLeast => (a.compare? b).any (· != .lt)

end SubmissionGrader.Checker
