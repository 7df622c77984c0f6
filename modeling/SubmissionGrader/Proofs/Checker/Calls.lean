import SubmissionGrader.Checker.Evaluation
import SubmissionGrader.Proofs.Outcome

/-!
# Nested calls of the evaluation

`Expression.evalWithin` is the evaluation with room for a given number of nested
calls; it has no result where the evaluation would need more. What it gives is the
value of the expression, and an expression needs no more calls than it has
operators over a leaf, and one for the leaf.
-/

namespace SubmissionGrader.Checker.Expression

/-- Goes on with the value of a first evaluation, if it had the room and a value. -/
def andThen {α β : Type} (first : Option (Except CheckerError α))
    (next : α → Option (Except CheckerError β)) : Option (Except CheckerError β) :=
  match first with
  | none => none
  | some (.error error) => some (.error error)
  | some (.ok value) => next value

theorem andThen_some {α β : Type} (x : Except CheckerError α) (f : α → Except CheckerError β) :
    andThen (some x) (fun a => some (f a)) = some (x >>= f) := by
  cases x <;> rfl

theorem andThen_sound {α β : Type} {first : Option (Except CheckerError α)}
    {next : α → Option (Except CheckerError β)} {x : Except CheckerError α}
    {f : α → Except CheckerError β} (hfirst : ∀ y, first = some y → y = x)
    (hnext : ∀ a r, next a = some r → r = f a) {r : Except CheckerError β}
    (h : andThen first next = some r) : r = (x >>= f) := by
  unfold andThen at h
  split at h
  next => cases h
  next error =>
    cases h
    rw [← hfirst _ rfl, error_bind]
  next value => rw [← hfirst _ rfl, ok_bind, hnext value r h]

/-- The value of an expression in a context, where there is room for `calls` nested
calls of the evaluation. -/
def evalWithin (context : FeatureContext) : Nat → Expression →
    Option (Except CheckerError Value)
  | 0, _ => none
  | _ + 1, number value => some (.ok (.number value))
  | _ + 1, text value => some (.ok (.text value))
  | _ + 1, boolean value => some (.ok (.boolean value))
  | _ + 1, null => some (.ok .null)
  | _ + 1, undefined => some (.ok .undefined)
  | _ + 1, name value => some (lookUp context value)
  | calls + 1, not operand =>
    andThen (evalWithin context calls operand) fun value => some (.ok (.boolean !value.isTruthy))
  | calls + 1, and left right =>
    andThen (evalWithin context calls left) fun value =>
      if value.isTruthy then evalWithin context calls right else some (.ok value)
  | calls + 1, or left right =>
    andThen (evalWithin context calls left) fun value =>
      if value.isTruthy then some (.ok value) else evalWithin context calls right
  | calls + 1, compare comparison left right =>
    andThen (evalWithin context calls left) fun a =>
      andThen (evalWithin context calls right) fun b =>
        some (.ok (.boolean (comparison.holds a b)))
  | calls + 1, length target =>
    andThen (evalWithin context calls target) fun value => some (lengthOf value)
  | calls + 1, index target position =>
    andThen (evalWithin context calls target) fun a =>
      andThen (evalWithin context calls position) fun b => some (indexInto a b)
  | calls + 1, includes target needle =>
    andThen (evalWithin context calls target) fun a =>
      andThen (evalWithin context calls needle) fun b => some (includesIn a b)

/-- There is room for the evaluation if there is more of it than operators over a
leaf. -/
theorem evalWithin_eq_eval (context : FeatureContext) {calls : Nat} {e : Expression}
    (h : e.height < calls) : evalWithin context calls e = some (eval context e) := by
  induction calls generalizing e with
  | zero => omega
  | succ calls ih =>
      cases e with
      | not operand =>
          rw [height] at h
          rw [evalWithin, ih (by omega), andThen_some]
          rfl
      | and left right =>
          rw [height] at h
          rw [evalWithin, ih (by omega), ih (by omega)]
          simp only [← apply_ite some]
          rw [andThen_some]
          rfl
      | or left right =>
          rw [height] at h
          rw [evalWithin, ih (by omega), ih (by omega)]
          simp only [← apply_ite some]
          rw [andThen_some]
          rfl
      | compare comparison left right =>
          rw [height] at h
          rw [evalWithin, ih (by omega), ih (by omega)]
          simp only [andThen_some]
          rfl
      | length target =>
          rw [height] at h
          rw [evalWithin, ih (by omega), andThen_some]
          rfl
      | index target position =>
          rw [height] at h
          rw [evalWithin, ih (by omega), ih (by omega)]
          simp only [andThen_some]
          rfl
      | includes target needle =>
          rw [height] at h
          rw [evalWithin, ih (by omega), ih (by omega)]
          simp only [andThen_some]
          rfl
      | _ => rfl

/-- Whatever room there is, it gives nothing but the value. -/
theorem eq_eval_of_evalWithin_eq_some (context : FeatureContext) {calls : Nat}
    {e : Expression} {r : Except CheckerError Value}
    (h : evalWithin context calls e = some r) : r = eval context e := by
  induction calls generalizing e r with
  | zero => cases h
  | succ calls ih =>
      cases e with
      | not operand => exact andThen_sound (fun y => ih) (fun a r h => by cases h; rfl) h
      | and left right =>
          refine andThen_sound (fun y => ih) (fun a r h => ?_) h
          cases ha : a.isTruthy with
          | true => exact ih (by simpa [ha] using h)
          | false => simpa [ha] using h.symm
      | or left right =>
          refine andThen_sound (fun y => ih) (fun a r h => ?_) h
          cases ha : a.isTruthy with
          | true => simpa [ha] using h.symm
          | false => exact ih (by simpa [ha] using h)
      | compare comparison left right =>
          exact andThen_sound (fun y => ih)
            (fun a r h => andThen_sound (fun y => ih) (fun b r h => by cases h; rfl) h) h
      | length target => exact andThen_sound (fun y => ih) (fun a r h => by cases h; rfl) h
      | index target position =>
          exact andThen_sound (fun y => ih)
            (fun a r h => andThen_sound (fun y => ih) (fun b r h => by cases h; rfl) h) h
      | includes target needle =>
          exact andThen_sound (fun y => ih)
            (fun a r h => andThen_sound (fun y => ih) (fun b r h => by cases h; rfl) h) h
      | _ =>
          cases h
          rfl

end SubmissionGrader.Checker.Expression
