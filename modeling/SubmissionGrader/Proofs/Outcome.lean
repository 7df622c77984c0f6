/-!
# Sequencing computations that can fail

What `>>=` does on `Except`, as equations for the two outcomes of its first
computation and as inversions of the two outcomes of the whole, and how two
computations with optional results go on side by side (`Option.Rel`).
-/

namespace SubmissionGrader

variable {ε α β : Type}

@[simp] theorem ok_bind (a : α) (f : α → Except ε β) : (Except.ok a >>= f) = f a := rfl

@[simp] theorem error_bind (e : ε) (f : α → Except ε β) :
    ((Except.error e : Except ε α) >>= f) = Except.error e := rfl

theorem bind_eq_ok_iff {x : Except ε α} {f : α → Except ε β} {b : β} :
    (x >>= f) = .ok b ↔ ∃ a, x = .ok a ∧ f a = .ok b := by
  cases x with
  | error e => simp
  | ok a => simp

theorem bind_eq_error_iff {x : Except ε α} {f : α → Except ε β} {e : ε} :
    (x >>= f) = .error e ↔ x = .error e ∨ ∃ a, x = .ok a ∧ f a = .error e := by
  cases x with
  | error e => simp
  | ok a => simp

theorem exists_error_bind {x : Except ε α} (h : ∃ e, x = .error e) {f : α → Except ε β} :
    ∃ e, (x >>= f) = .error e := by
  obtain ⟨e, rfl⟩ := h
  exact ⟨e, rfl⟩

theorem exists_error_bind_of_forall {f : α → Except ε β} (h : ∀ a, ∃ e, f a = .error e)
    {x : Except ε α} : ∃ e, (x >>= f) = .error e := by
  cases x with
  | error e => exact ⟨e, rfl⟩
  | ok a => exact h a

theorem toOption_eq_some_iff {x : Except ε α} {a : α} : x.toOption = some a ↔ x = .ok a := by
  cases x with
  | error e => simp [Except.toOption]
  | ok b => simp [Except.toOption]

theorem isSome_toOption_iff {x : Except ε α} : x.toOption.isSome = true ↔ ∃ a, x = .ok a := by
  simp only [Option.isSome_iff_exists, toOption_eq_some_iff]

section Related

variable {α' β' γ : Type} {R : α → α' → Prop} {S : β → β' → Prop} {o : Option α} {o' : Option α'}

theorem rel_bind (h : Option.Rel R o o') {f : α → Option β} {g : α' → Option β'}
    (hfg : ∀ a a', R a a' → Option.Rel S (f a) (g a')) :
    Option.Rel S (o.bind f) (o'.bind g) := by
  cases h with
  | none => exact .none
  | some h => exact hfg _ _ h

theorem rel_mono (h : Option.Rel R o o') {T : α → α' → Prop} (hRT : ∀ a a', R a a' → T a a') :
    Option.Rel T o o' := by
  cases h with
  | none => exact .none
  | some h => exact .some (hRT _ _ h)

theorem rel_or (h : Option.Rel R o o') {u : Option α} {u' : Option α'} (hu : Option.Rel R u u') :
    Option.Rel R (o.or u) (o'.or u') := by
  cases h with
  | none => exact hu
  | some h => exact .some h

theorem map_eq_of_rel (h : Option.Rel R o o') {f : α → γ} {g : α' → γ}
    (hfg : ∀ a a', R a a' → a ∈ o → g a' = f a) : o'.map g = o.map f := by
  cases h with
  | none => rfl
  | some h => rw [Option.map_some, Option.map_some, hfg _ _ h rfl]

end Related

end SubmissionGrader
