import Mathlib.Data.List.Induction

/-!
# Runs

A system takes one event after the other, and not every event is possible in every state. What each
event keeps, given the events before it, holds at the end of every run.
-/

namespace SubmissionGrader.Run

variable {σ ε : Type} {step? : σ → ε → Option σ}

theorem foldlM_concat_eq_some_iff {events : List ε} {event : ε} {s t : σ} :
    (events ++ [event]).foldlM step? s = some t ↔
      ∃ r, events.foldlM step? s = some r ∧ step? r event = some t := by
  simp [List.foldlM_append, Option.bind_eq_some_iff]

theorem induction {P : List ε → σ → Prop} {s : σ} (hstart : P [] s)
    (hstep : ∀ events r event t, P events r → step? r event = some t → P (events ++ [event]) t)
    {events : List ε} {t : σ} (h : events.foldlM step? s = some t) : P events t := by
  induction events using List.reverseRecOn generalizing t with
  | nil =>
    obtain rfl : s = t := by simpa using h
    exact hstart
  | append_singleton events event ih =>
    obtain ⟨r, hr, ht⟩ := foldlM_concat_eq_some_iff.1 h
    exact hstep events r event t (ih hr) ht

end SubmissionGrader.Run
