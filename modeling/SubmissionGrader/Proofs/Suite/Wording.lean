import SubmissionGrader.Proofs.Text.Wording
import SubmissionGrader.Suite.Review

/-!
# The words of reviews and of patterns

A warning begins with words that no other kind of warning begins with, so its text tells what the
mistake is. The findings of a pattern that counts are told in other words than those of a plain
text.
-/

namespace SubmissionGrader

/-! ## Warnings -/

namespace SuiteFlaw

/-- The fixed words at the front of a warning. -/
def opening : SuiteFlaw → String
  | noCases => "suite has no cases"
  | noDescription => "description is empty"
  | sameDescription _ => "duplicate description: "
  | noChecker => "ast case has no checker"
  | unknownAttribute _ => "checker references unknown attribute: "
  | brokenChecker _ => "checker does not compile: "
  | noPattern => "pattern case has no pattern"
  | plainPattern => "pattern is not a valid regex and will be matched as plain text"
  | noValidator => "runtime case has no validator and will always fail"
  | unknownType _ => "unknown test type: "

def remainder : SuiteFlaw → String
  | sameDescription description => description
  | unknownAttribute name => name
  | brokenChecker error => error.message
  | unknownType tag => tag
  | _ => ""

theorem message_eq (flaw : SuiteFlaw) : flaw.message = flaw.opening ++ flaw.remainder := by
  cases flaw with
  | sameDescription | unknownAttribute | brokenChecker | unknownType => rfl
  | _ => exact String.append_empty.symm

def openings : List String :=
  [noCases, noDescription, sameDescription "", noChecker, unknownAttribute "",
    brokenChecker .tooDeep, noPattern, plainPattern, noValidator, unknownType ""].map opening

theorem opening_mem_openings (flaw : SuiteFlaw) : flaw.opening ∈ openings := by
  cases flaw <;> simp [openings, opening]

theorem eq_of_prefix_openings :
    ∀ a ∈ openings, ∀ b ∈ openings, a.toList <+: b.toList → a = b := by
  decide +kernel

/-- Warnings with the same text are of one kind, and about the same. -/
theorem opening_eq_of_message_eq {a b : SuiteFlaw} (h : a.message = b.message) :
    a.opening = b.opening ∧ a.remainder = b.remainder := by
  rw [message_eq, message_eq] at h
  have hopening : a.opening = b.opening := by
    by_contra hne
    refine Text.append_ne_append_of_front (fun hab => hne ?_) (fun hba => hne ?_) _ _ h
    · exact eq_of_prefix_openings _ a.opening_mem_openings _ b.opening_mem_openings hab
    · exact (eq_of_prefix_openings _ b.opening_mem_openings _ a.opening_mem_openings hba).symm
  rw [hopening] at h
  exact ⟨hopening, String.append_right_inj _ |>.1 h⟩

def isDescriptive : SuiteFlaw → Bool
  | noDescription | sameDescription _ => true
  | _ => false

theorem isDescriptive_eq_of_message_eq {a b : SuiteFlaw} (h : a.message = b.message) :
    a.isDescriptive = b.isDescriptive := by
  have hopening := (opening_eq_of_message_eq h).1
  cases a <;> cases b <;> simp_all [opening, isDescriptive]

/-- Only the errors of two checkers may read alike. -/
theorem eq_of_message_eq {a b : SuiteFlaw} (h : a.message = b.message)
    (hb : ∀ error, b ≠ .brokenChecker error) : a = b := by
  obtain ⟨hopening, hremainder⟩ := opening_eq_of_message_eq h
  cases a <;> cases b <;> simp_all [opening, remainder]

end SuiteFlaw

/-! ## Findings of patterns -/

namespace Pattern.Finding

theorem exists_message_times_eq (count least : Nat) :
    ∃ rest, (times count least).message = "Pattern found " ++ (toString count ++ rest) := by
  let found := "Pattern found " ++ toString count ++ " time(s)"
  have hwords : (times count least).message =
      if least ≤ count then found else found ++ ", expected at least " ++ toString least := rfl
  rw [hwords]
  split
  · exact ⟨" time(s)", String.append_assoc⟩
  · exact ⟨" time(s)" ++ ", expected at least " ++ toString least, by
      simp only [found, String.append_assoc]⟩

/-- A number does not begin like a word. -/
theorem toString_append_ne (n : Nat) (rest : String) {text : String} {c : Char}
    (htext : text.toList.head? = some c) (hc : c.isDigit = false) : toString n ++ rest ≠ text := by
  rintro rfl
  rw [String.toList_append, List.head?_append] at htext
  have hhead : (Nat.toDigits 10 n).head? = some c := by
    simpa [List.head?_eq_none_iff] using htext
  have hdigit := Nat.isDigit_of_mem_toDigits (by decide) (by decide) (List.mem_of_head? hhead)
  rw [hc] at hdigit
  cases hdigit

/-- Whether a text is what is said of a plain text. -/
def TellsPlain (message : String) : Prop :=
  message = "Pattern found as plain text (not a valid regex)" ∨
    ∃ text, message =
      "Pattern not found: " ++ text ++ " (not a valid regex, matched as plain text)"

theorem tellsPlain_plain (pattern : String) (found : Bool) :
    TellsPlain (plain pattern found).message := by
  cases found with
  | true => exact .inl rfl
  | false => exact .inr ⟨pattern, rfl⟩

theorem not_tellsPlain_missing : ¬TellsPlain "No pattern provided" := by
  rintro (hfound | ⟨text, hmissing⟩)
  · exact absurd hfound (by decide +kernel)
  · rw [String.append_assoc] at hmissing
    exact Text.append_ne_of_front (by decide +kernel) _ hmissing.symm

theorem not_tellsPlain_times (count least : Nat) : ¬TellsPlain (times count least).message := by
  obtain ⟨rest, hwords⟩ := exists_message_times_eq count least
  rw [hwords]
  rintro (hfound | ⟨text, hmissing⟩)
  · have hplain : "Pattern found as plain text (not a valid regex)" =
        "Pattern found " ++ "as plain text (not a valid regex)" := by decide +kernel
    rw [hplain, String.append_right_inj] at hfound
    exact toString_append_ne count rest rfl (by decide) hfound
  · rw [String.append_assoc] at hmissing
    exact Text.append_ne_append_of_front (by decide +kernel) (by decide +kernel) _ _ hmissing

end Pattern.Finding

end SubmissionGrader
