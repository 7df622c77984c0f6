import SubmissionGrader.Config.Basic
import SubmissionGrader.Config.Interpolation
import SubmissionGrader.Text.Blank
import SubmissionGrader.Text.Quoted

/-!
# Overrides from the environment

Two settings can be overridden by variables: first the capacity of the cache, then the nesting
limit. A variable that holds no number is an error; what was overridden before stays.
-/

namespace SubmissionGrader

inductive NumberFault where
  | empty
  | invalidDigit
  | tooLarge
  deriving DecidableEq, Repr

def NumberFault.message : NumberFault → String
  | empty => "cannot parse integer from empty string"
  | invalidDigit => "invalid digit found in string"
  | tooLarge => "number too large to fit in target type"

structure OverrideError where
  name : String
  value : String
  fault : NumberFault
  deriving DecidableEq, Repr

def OverrideError.message (e : OverrideError) : String :=
  "invalid " ++ e.name ++ ": " ++ Text.quoted e.value

namespace GraderConfig

def maxWord : Nat := UInt64.size - 1

/-- The number that digits give behind those with the value `n`. -/
def wordOfDigits (n : Nat) : List Char → Except NumberFault Nat
  | [] => .ok n
  | c :: rest =>
    if c.isDigit then
      let n := 10 * n + (c.toNat - '0'.toNat)
      if n ≤ maxWord then wordOfDigits n rest else .error .tooLarge
    else .error .invalidDigit

/-- The number that a text gives in decimal digits, perhaps behind a plus sign. -/
def word (text : List Char) : Except NumberFault Nat :=
  match text with
  | [] => .error .empty
  | ['+'] => .error .invalidDigit
  | '+' :: digits => wordOfDigits 0 digits
  | digits => wordOfDigits 0 digits

/-- The number that overrides a setting, if its variable is set. White space may be around it. -/
def override? (env : Environment) (name : String) : Except OverrideError (Option Nat) :=
  match env name with
  | none => .ok none
  | some value =>
    match word (Text.trimChars value.toList) with
    | .ok n => .ok (some n)
    | .error fault => .error ⟨name, value, fault⟩

def capacityVariable : String := "JSXGRADE_CACHE_CAPACITY"

def depthVariable : String := "JSXGRADE_MAX_DEPTH"

/-- The configuration with the overrides, up to the first error. -/
def applyOverrides (env : Environment) (c : GraderConfig) : GraderConfig × Option OverrideError :=
  match override? env capacityVariable with
  | .error error => (c, some error)
  | .ok capacity? =>
    let c := { c with cacheCapacity := capacity?.getD c.cacheCapacity }
    match override? env depthVariable with
    | .error error => (c, some error)
    | .ok depth? => ({ c with maxNestingDepth := depth?.getD c.maxNestingDepth }, none)

end GraderConfig

end SubmissionGrader
