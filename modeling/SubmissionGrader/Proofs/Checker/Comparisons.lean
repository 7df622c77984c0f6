import SubmissionGrader.Checker.Value
import SubmissionGrader.Proofs.Number.Binary64

/-!
# The comparisons of two values

The comparisons of a pair of values belong to one family (`Comparison.IsCoherent`): the two
equalities are symmetric and the strict one implies the other, and the four orders can be read off
one value, the order of the pair, which is turned round with the pair (`Value.compare?_swap`) and is
missing only where a number is missing (`Value.compare?_eq_none_iff`).

A list is compared as its text with every number, and with every text as to equality. Orders compare
a list with a text by their numbers, and therefore as the two texts only where the numbers are
ordered as the texts are (`list_compared_as_text`).
-/

namespace SubmissionGrader.Checker

namespace Value

variable {a b : Value}

/-! ## Equality -/

theorem ofBool_ne_nan (b : Bool) : Binary64.ofBool b ≠ .nan := by
  cases b <;> decide +kernel

theorem strictlyEquals_comm (a b : Value) : a.strictlyEquals b = b.strictlyEquals a := by
  cases a <;> cases b <;> simp [strictlyEquals, Binary64.equals_comm, Bool.beq_comm]

theorem coercedEquals_comm (a b : Value) : a.coercedEquals b = b.coercedEquals a := by
  cases a <;> cases b <;> simp only [coercedEquals, strictlyEquals_comm]

theorem looselyEquals_comm (a b : Value) : a.looselyEquals b = b.looselyEquals a := by
  rw [looselyEquals, looselyEquals, coercedEquals_comm]
  cases a.isMissing <;> cases b.isMissing <;> rfl

theorem looselyEquals_of_strictlyEquals (h : a.strictlyEquals b = true) :
    a.looselyEquals b = true := by
  cases a <;> cases b <;>
    simp_all [strictlyEquals, looselyEquals, isMissing, withoutBoolean, coercedEquals,
      Binary64.equals_self_iff, ofBool_ne_nan]

/-! ## Order -/

theorem compare?_swap (a b : Value) : b.compare? a = (a.compare? b).map Ordering.swap := by
  cases a with
  | text s =>
    cases b with
    | text t =>
      have hunits : Text.compareUnits t s = (Text.compareUnits s t).swap :=
        Std.OrientedOrd.eq_swap
      exact congrArg some hunits
    | _ => exact Binary64.compare?_swap _ _
  | _ => cases b <;> exact Binary64.compare?_swap _ _

/-- Two values have no order exactly if their numbers are compared and one is missing. -/
theorem compare?_eq_none_iff : a.compare? b = none ↔
    ¬(a.type = .string ∧ b.type = .string) ∧ (a.toNumber = .nan ∨ b.toNumber = .nan) := by
  cases a <;> cases b <;> simp [compare?, type, Binary64.compare?_eq_none_iff]

end Value

/-! ## The family of comparisons -/

namespace Comparison

open Value

def orders : List Comparison := [less, atMost, greater, atLeast]

section Orders

variable {a b c d : Value}

theorem less_iff : less.holds a b = true ↔ a.compare? b = some .lt := beq_iff_eq

theorem greater_iff : greater.holds a b = true ↔ a.compare? b = some .gt := beq_iff_eq

theorem atMost_and_atLeast_iff :
    (atMost.holds a b && atLeast.holds a b) = true ↔ a.compare? b = some .eq := by
  simp only [holds]
  rcases a.compare? b with _ | _ | _ | _ <;> simp

/-- Two values have one order at most. -/
theorem not_two_orders {o p : Ordering} (h : o ≠ p) :
    ¬(a.compare? b = some o ∧ a.compare? b = some p) := by
  rintro ⟨ho, hp⟩
  exact h (Option.some.inj (ho.symm.trans hp))

theorem less_eq_greater_swap (a b : Value) : less.holds a b = greater.holds b a := by
  simp only [holds, compare?_swap a b]
  rcases a.compare? b with _ | _ | _ | _ <;> rfl

theorem atMost_eq_atLeast_swap (a b : Value) : atMost.holds a b = atLeast.holds b a := by
  simp only [holds, compare?_swap a b]
  rcases a.compare? b with _ | _ | _ | _ <;> rfl

/-- The four orders tell what the order of two values is. -/
theorem orders_eq_iff : (∀ comparison ∈ orders, comparison.holds a b = comparison.holds c d) ↔
    a.compare? b = c.compare? d := by
  simp only [orders, holds, List.forall_mem_cons]
  rcases a.compare? b with _ | _ | _ | _ <;> rcases c.compare? d with _ | _ | _ | _ <;> simp

theorem orders_eq_false_iff :
    (∀ comparison ∈ orders, comparison.holds a b = false) ↔ a.compare? b = none := by
  simp only [orders, holds, List.forall_mem_cons]
  rcases a.compare? b with _ | _ | _ | _ <;> simp

end Orders

/-- The laws that tie the comparisons of two values together. -/
structure IsCoherent (a b : Value) : Prop where
  equal_of_strictlyEqual : strictlyEqual.holds a b = true → equal.holds a b = true
  strictlyEqual_comm : strictlyEqual.holds a b = strictlyEqual.holds b a
  equal_comm : equal.holds a b = equal.holds b a
  strictlyUnequal_eq : strictlyUnequal.holds a b = !strictlyEqual.holds a b
  unequal_eq : unequal.holds a b = !equal.holds a b
  less_eq_greater : less.holds a b = greater.holds b a
  atMost_eq_atLeast : atMost.holds a b = atLeast.holds b a
  atMost_eq : atMost.holds a b = (less.holds a b || (atMost.holds a b && atLeast.holds a b))
  not_less_and_greater : ¬(less.holds a b = true ∧ greater.holds a b = true)
  not_less_and_both : ¬(less.holds a b = true ∧ (atMost.holds a b && atLeast.holds a b) = true)
  not_greater_and_both :
    ¬(greater.holds a b = true ∧ (atMost.holds a b && atLeast.holds a b) = true)
  unordered_iff : (∀ comparison ∈ orders, comparison.holds a b = false) ↔
    ¬(a.type = .string ∧ b.type = .string) ∧ (a.toNumber = .nan ∨ b.toNumber = .nan)

/-- The comparisons of all pairs of values are coherent. -/
theorem comparisons_coherent (a b : Value) : IsCoherent a b where
  equal_of_strictlyEqual := looselyEquals_of_strictlyEquals
  strictlyEqual_comm := strictlyEquals_comm a b
  equal_comm := looselyEquals_comm a b
  strictlyUnequal_eq := rfl
  unequal_eq := rfl
  less_eq_greater := less_eq_greater_swap a b
  atMost_eq_atLeast := atMost_eq_atLeast_swap a b
  atMost_eq := by
    simp only [holds]
    rcases a.compare? b with _ | _ | _ | _ <;> rfl
  not_less_and_greater := by
    rw [less_iff, greater_iff]
    exact not_two_orders (by decide)
  not_less_and_both := by
    rw [less_iff, atMost_and_atLeast_iff]
    exact not_two_orders (by decide)
  not_greater_and_both := by
    rw [greater_iff, atMost_and_atLeast_iff]
    exact not_two_orders (by decide)
  unordered_iff := orders_eq_false_iff.trans compare?_eq_none_iff

/-! ## Lists -/

/-- The comparison takes a list for its text, on either side of a value. -/
def TakesListAsText (comparison : Comparison) (items : List String) (v : Value) : Prop :=
  comparison.holds (list items) v = comparison.holds (text (joined items)) v ∧
    comparison.holds v (list items) = comparison.holds v (text (joined items))

section Lists

variable {comparison : Comparison} {items : List String} {v : Value}

theorem takesListAsText_of_equality (h : comparison ∈ [equal, unequal])
    (hlist : (list items).looselyEquals v = (text (joined items)).looselyEquals v) :
    comparison.TakesListAsText items v := by
  have hswap : v.looselyEquals (list items) = v.looselyEquals (text (joined items)) := by
    rw [looselyEquals_comm v, hlist, looselyEquals_comm]
  simp only [List.mem_cons, List.not_mem_nil, or_false] at h
  rcases h with rfl | rfl
  · exact ⟨hlist, hswap⟩
  · exact ⟨congrArg not hlist, congrArg not hswap⟩

/-- All orders take a list for its text exactly if it is ordered as its text. -/
theorem orders_takeListAsText_iff : (∀ comparison ∈ orders, comparison.TakesListAsText items v) ↔
    (list items).compare? v = (text (joined items)).compare? v := by
  constructor
  · exact fun h => orders_eq_iff.1 fun comparison hmem => (h comparison hmem).1
  · intro h comparison hmem
    have hswap : v.compare? (list items) = v.compare? (text (joined items)) := by
      rw [compare?_swap (list items), compare?_swap (text (joined items)), h]
    exact ⟨orders_eq_iff.2 h comparison hmem, orders_eq_iff.2 hswap comparison hmem⟩

end Lists

/-- A list is compared as its text with every number, and as to equality with every text. Orders
compare it with a text by the numbers of both, so that they take it for its text exactly if the
numbers are ordered as the two texts are. -/
theorem list_compared_as_text (items : List String) :
    (∀ n, ∀ comparison ∈ [equal, unequal] ++ orders,
      comparison.TakesListAsText items (number n)) ∧
    (∀ s, ∀ comparison ∈ [equal, unequal], comparison.TakesListAsText items (text s)) ∧
    ∀ s, (∀ comparison ∈ orders, comparison.TakesListAsText items (text s)) ↔
      (textNumber (joined items)).compare? (textNumber s) =
        some (Text.compareUnits (joined items) s) := by
  refine ⟨fun n comparison h => ?_, fun s comparison h => ?_, fun s => ?_⟩
  · rcases List.mem_append.1 h with h | h
    · exact takesListAsText_of_equality h rfl
    · exact orders_takeListAsText_iff.2 rfl comparison h
  · exact takesListAsText_of_equality h rfl
  · exact orders_takeListAsText_iff

theorem list_not_compared_as_text :
    less.holds (list ["b"]) (text "c") = false ∧
      less.holds (text (joined ["b"])) (text "c") = true := by
  decide +kernel

end Comparison

end SubmissionGrader.Checker
