import Mathlib.Data.List.Infix
import SubmissionGrader.Proofs.Lists

/-!
# Texts that differ at an end

Messages are put together from fixed words and from what they are about. Two of them differ if
their fixed words do, at the front or at the end, or if a number in front of other words does.
-/

namespace SubmissionGrader.Text

theorem append_ne_append_of_front {a b : String} (h : ¬a.toList <+: b.toList)
    (h' : ¬b.toList <+: a.toList) (x y : String) : a ++ x ≠ b ++ y := by
  intro heq
  have ha : a.toList <+: (a ++ x).toList := by
    rw [String.toList_append]
    exact List.prefix_append _ _
  have hb : b.toList <+: (a ++ x).toList := by
    rw [heq, String.toList_append]
    exact List.prefix_append _ _
  exact (List.prefix_or_prefix_of_prefix ha hb).elim h h'

theorem append_ne_append_of_end {a b : String} (h : ¬a.toList <:+ b.toList)
    (h' : ¬b.toList <:+ a.toList) (x y : String) : x ++ a ≠ y ++ b := by
  intro heq
  have ha : a.toList <:+ (x ++ a).toList := by
    rw [String.toList_append]
    exact List.suffix_append _ _
  have hb : b.toList <:+ (x ++ a).toList := by
    rw [heq, String.toList_append]
    exact List.suffix_append _ _
  exact (List.suffix_or_suffix_of_suffix ha hb).elim h h'

theorem append_ne_of_front {a b : String} (h : ¬a.toList <+: b.toList) (x : String) :
    a ++ x ≠ b := by
  rintro rfl
  rw [String.toList_append] at h
  exact h (List.prefix_append _ _)

/-- The digits of a number end where other words begin. -/
theorem eq_of_toString_append_eq {n m : Nat} {x y : String}
    (hx : ∀ c ∈ x.toList.head?, c.isDigit = false) (hy : ∀ c ∈ y.toList.head?, c.isDigit = false)
    (h : toString n ++ x = toString m ++ y) : n = m := by
  have hdigits : ∀ k, ∀ c ∈ Nat.toDigits 10 k, c.isDigit = true := fun k c hc =>
    Nat.isDigit_of_mem_toDigits (by decide) (by decide) hc
  have hchars := congrArg (fun text => text.toList.takeWhile Char.isDigit) h
  simp only [String.toList_append, Nat.toString_eq_ofList_toDigits, String.toList_ofList] at hchars
  rw [Lists.takeWhile_append_eq (hdigits n) hx, Lists.takeWhile_append_eq (hdigits m) hy] at hchars
  rw [← Nat.ofDigitChars_ten_toDigits (n := n), hchars, Nat.ofDigitChars_ten_toDigits]

end SubmissionGrader.Text
