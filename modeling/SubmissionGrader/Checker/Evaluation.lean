import SubmissionGrader.Checker.Expression
import SubmissionGrader.Checker.Value
import SubmissionGrader.Features.Context

/-!
# Evaluating checkers

An expression has a value in a feature context, or evaluation ends with the first error. `&&` and
`||` give one of their operands, and evaluate the right one only if the left one does not decide.
-/

namespace SubmissionGrader.Checker

def Value.ofAttribute : Attribute → Value
  | .flag value => boolean value
  | .list value => list value
  | .text (some value) => text value
  | .text none => null

def lookUp (context : FeatureContext) (name : String) : Except CheckerError Value :=
  match context.attribute? name with
  | some a => .ok (.ofAttribute a)
  | none => .error (.undefinedName name)

/-- The length of a list, or the number of 16-bit units of a text. -/
def lengthOf : Value → Except CheckerError Value
  | .list items => .ok (.number (.ofNat items.length))
  | .text s => .ok (.number (.ofNat (Text.units s).length))
  | v => .error (.misuse (.length v.type))

def positionOf? : Value → Option Nat
  | .number n => n.toNat?
  | .text s => naturalOfText? s
  | _ => none

/-- What stands at a position; outside the target nothing does. -/
def indexInto (target position : Value) : Except CheckerError Value :=
  match target with
  | .list items =>
    .ok (((positionOf? position).bind fun i => items[i]?).elim .undefined .text)
  | .text s =>
    .ok (((positionOf? position).bind fun i => (Text.units s)[i]?).elim .undefined
      fun unit => .text (Text.ofUnit unit))
  | .null | .undefined => .error (.misuse (.index target.type))
  | .boolean _ | .number _ => .ok .undefined

/-- Whether a list has an item, or a text has a part. -/
def includesIn (target needle : Value) : Except CheckerError Value :=
  match target with
  | .list items =>
    .ok <| .boolean <| match needle with
      | .text s => items.contains s
      | _ => false
  | .text s => .ok (.boolean (Text.contains s needle.shown))
  | v => .error (.misuse (.includes v.type))

namespace Expression

def eval (context : FeatureContext) : Expression → Except CheckerError Value
  | number value => .ok (.number value)
  | text value => .ok (.text value)
  | boolean value => .ok (.boolean value)
  | null => .ok .null
  | undefined => .ok .undefined
  | name value => lookUp context value
  | not operand => do return .boolean !(← eval context operand).isTruthy
  | and left right => do
    let value ← eval context left
    if value.isTruthy then eval context right else .ok value
  | or left right => do
    let value ← eval context left
    if value.isTruthy then .ok value else eval context right
  | compare comparison left right => do
    let a ← eval context left
    let b ← eval context right
    return .boolean (comparison.holds a b)
  | length target => do lengthOf (← eval context target)
  | index target position => do
    let a ← eval context target
    let b ← eval context position
    indexInto a b
  | includes target needle => do
    let a ← eval context target
    let b ← eval context needle
    includesIn a b

end Expression

end SubmissionGrader.Checker
