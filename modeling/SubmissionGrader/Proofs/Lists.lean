import Mathlib.Algebra.BigOperators.Group.List.Basic
import Mathlib.Algebra.GroupWithZero.Nat
import Mathlib.Data.List.Forall2
import Mathlib.Data.List.Nodup
import Mathlib.Data.List.Perm.Basic
import Mathlib.Data.List.TakeWhile

/-!
# Lists whose entries change one by one

What becomes of a list, of the sum over it, or of its relation to another list, if one of its
entries is added, replaced or removed, what comes of a list all of whose entries can be decoded,
which entry is found by its key, what determines a list with ascending keys, and where a run of
entries with a property ends.
-/

namespace SubmissionGrader.Lists

variable {α β : Type} {i : Nat}

theorem sum_map_eraseIdx {xs : List α} {x : α} (h : xs[i]? = some x) (f : α → Nat) :
    (xs.map f).sum = f x + ((xs.eraseIdx i).map f).sum := by
  obtain ⟨hi, rfl⟩ := List.getElem?_eq_some_iff.1 h
  rw [← ((List.getElem_cons_eraseIdx_perm hi).map f).sum_eq, List.map_cons, List.sum_cons]

theorem sum_map_set {xs : List α} {x : α} (h : xs[i]? = some x) (f : α → Nat) (y : α) :
    ((xs.set i y).map f).sum = f y + ((xs.eraseIdx i).map f).sum := by
  obtain ⟨hi, -⟩ := List.getElem?_eq_some_iff.1 h
  rw [((List.set_perm_cons_eraseIdx hi y).map f).sum_eq, List.map_cons, List.sum_cons]

theorem getElem?_concat {xs : List α} {x y : α} (h : (xs ++ [x])[i]? = some y) :
    (i < xs.length ∧ xs[i]? = some y) ∨ (i = xs.length ∧ y = x) := by
  rcases Nat.lt_or_ge i xs.length with hi | hi
  · exact .inl ⟨hi, by rwa [List.getElem?_append_left hi] at h⟩
  · rw [List.getElem?_append_right hi, List.getElem?_singleton] at h
    split at h
    next hzero =>
      cases h
      exact .inr ⟨Nat.le_antisymm (Nat.sub_eq_zero_iff_le.1 hzero) hi, rfl⟩
    next => cases h

theorem mapM_eq_some_map {f : α → Option β} {g : α → β} {xs : List α}
    (h : ∀ x ∈ xs, f x = some (g x)) : xs.mapM f = some (xs.map g) := by
  induction xs with
  | nil => rfl
  | cons x xs ih =>
    have hx := h x (by simp)
    have hxs := ih fun y hy => h y (by simp [hy])
    simp [hx, hxs]

/-- The first entry with a property stands behind the longest front without it. -/
theorem eq_takeWhile_append_of_find? {p : α → Bool} {xs : List α} {x : α}
    (h : xs.find? p = some x) : ∃ after, xs = xs.takeWhile (!p ·) ++ x :: after := by
  have hhead : (xs.dropWhile (!p ·)).head? = some x := by
    rw [← List.find?_eq_head?_dropWhile_not, h]
  obtain ⟨after, hafter⟩ := List.head?_eq_some_iff.1 hhead
  exact ⟨after, by rw [← hafter, List.takeWhile_append_dropWhile]⟩

section Keys

variable {κ : Type} [DecidableEq κ] {f : α → κ} {xs ys : List α}

/-- With different keys, an entry is found by its key. -/
theorem find?_key_eq_some_iff (h : (xs.map f).Nodup) {k : κ} {x : α} :
    xs.find? (fun y => f y = k) = some x ↔ x ∈ xs ∧ f x = k := by
  constructor
  · intro hfind
    exact ⟨List.mem_of_find?_eq_some hfind, by simpa using List.find?_some hfind⟩
  · rintro ⟨hmem, rfl⟩
    have hsome : (xs.find? (fun y => f y = f x)).isSome := List.find?_isSome.2 ⟨x, hmem, by simp⟩
    obtain ⟨y, hy⟩ := Option.isSome_iff_exists.1 hsome
    have hkey : f y = f x := by simpa using List.find?_some hy
    rw [hy, List.inj_on_of_nodup_map h (List.mem_of_find?_eq_some hy) hmem hkey]

/-- With different keys, the entry of a key does not depend on the order. -/
theorem find?_key_perm (hperm : xs.Perm ys) (h : (xs.map f).Nodup) (k : κ) :
    xs.find? (fun x => f x = k) = ys.find? (fun y => f y = k) := by
  have hys : (ys.map f).Nodup := (hperm.map _).nodup_iff.1 h
  refine Option.ext fun x => ?_
  rw [find?_key_eq_some_iff h, find?_key_eq_some_iff hys, hperm.mem_iff]

end Keys

/-- The entries of a list with ascending keys determine the list. -/
theorem eq_of_ascending_keys {κ : Type} [Preorder κ] {f : α → κ} {xs ys : List α}
    (hx : xs.Pairwise fun a b => f a < f b) (hy : ys.Pairwise fun a b => f a < f b)
    (hmem : ∀ x, x ∈ xs ↔ x ∈ ys) : xs = ys := by
  have hne : ∀ {a b : α}, f a < f b → a ≠ b := by
    rintro a _ hlt rfl
    exact lt_irrefl _ hlt
  have hperm : xs.Perm ys := (List.perm_ext_iff_of_nodup (hx.imp hne) (hy.imp hne)).2 hmem
  exact hperm.eq_of_pairwise (fun a b _ _ hab hba => absurd hba (lt_asymm hab)) hx hy

section Run

variable {p : α → Bool} {run rest : List α}

theorem takeWhile_append_eq (hrun : ∀ x ∈ run, p x = true) (hstop : ∀ x ∈ rest.head?, p x = false) :
    (run ++ rest).takeWhile p = run := by
  rw [List.takeWhile_append_of_pos hrun]
  cases rest with
  | nil => simp
  | cons x rest => simp [hstop x rfl]

theorem dropWhile_append_eq (hrun : ∀ x ∈ run, p x = true) (hstop : ∀ x ∈ rest.head?, p x = false) :
    (run ++ rest).dropWhile p = rest := by
  rw [List.dropWhile_append_of_pos hrun]
  cases rest with
  | nil => rfl
  | cons x rest => simp [hstop x rfl]

theorem eq_takeWhile_append_of_dropWhile {xs : List α} (h : xs.dropWhile p = rest) :
    xs = xs.takeWhile p ++ rest ∧ (∀ x ∈ xs.takeWhile p, p x = true) ∧
      ∀ x ∈ rest.head?, p x = false := by
  subst h
  refine ⟨List.takeWhile_append_dropWhile.symm, fun x hx => List.mem_takeWhile_imp hx, ?_⟩
  intro x hx
  have hnot := List.head?_dropWhile_not p xs
  rwa [Option.mem_def.1 hx] at hnot

end Run

section Forall

variable {R : α → β → Prop} {xs : List α} {ys : List β}

theorem forall₂_getElem? (h : List.Forall₂ R xs ys) {y : β} (hy : ys[i]? = some y) :
    ∃ x, xs[i]? = some x ∧ R x y := by
  induction h generalizing i with
  | nil => simp at hy
  | @cons x y' xs ys hxy h ih =>
    cases i with
    | zero =>
      obtain rfl : y' = y := by simpa using hy
      exact ⟨x, rfl, hxy⟩
    | succ i => exact ih (by simpa using hy)

theorem forall₂_eraseIdx (h : List.Forall₂ R xs ys) (i : Nat) :
    List.Forall₂ R (xs.eraseIdx i) (ys.eraseIdx i) := by
  induction h generalizing i with
  | nil => exact .nil
  | cons hxy h ih =>
    cases i with
    | zero => exact h
    | succ i => exact .cons hxy (ih i)

theorem forall₂_set (h : List.Forall₂ R xs ys) (i : Nat) {x : α} {y : β} (hxy : R x y) :
    List.Forall₂ R (xs.set i x) (ys.set i y) := by
  induction h generalizing i with
  | nil => exact .nil
  | cons hxy' h ih =>
    cases i with
    | zero => exact .cons hxy h
    | succ i => exact .cons hxy' (ih i)

theorem forall₂_of_getElem? (hlength : xs.length = ys.length)
    (h : ∀ (i : Nat) x y, xs[i]? = some x → ys[i]? = some y → R x y) : List.Forall₂ R xs ys :=
  List.forall₂_iff_get.2 ⟨hlength, fun i hx hy =>
    h i _ _ (List.getElem?_eq_getElem hx) (List.getElem?_eq_getElem hy)⟩

/-- The first entries with a property are related, if related entries agree on the property. -/
theorem rel_find? (h : List.Forall₂ R xs ys) {p : α → Bool} {q : β → Bool}
    (hpq : ∀ x y, R x y → q y = p x) :
    Option.Rel (fun x y => R x y ∧ p x = true) (xs.find? p) (ys.find? q) := by
  induction h with
  | nil => exact .none
  | @cons x y xs ys hxy h ih =>
    rw [List.find?_cons, List.find?_cons, hpq x y hxy]
    cases hp : p x with
    | true => exact .some ⟨hxy, hp⟩
    | false => exact ih

end Forall

/-- The parts of a list of images come from parts of the list. -/
theorem exists_perm_of_map_perm_append {f : α → β} {xs : List α} {ys zs : List β}
    (h : (xs.map f).Perm (ys ++ zs)) :
    ∃ as bs : List α, (as ++ bs).Perm xs ∧ as.map f = ys ∧ bs.map f = zs := by
  have hcomp : Relation.Comp (fun us vs => us = vs.map f) List.Perm (ys ++ zs) xs := by
    rw [List.eq_map_comp_perm]
    exact h.symm
  obtain ⟨ws, hws, hperm⟩ := hcomp
  obtain ⟨as, bs, rfl, rfl, rfl⟩ := List.append_eq_map_iff.1 hws
  exact ⟨as, bs, hperm, rfl, rfl⟩

end SubmissionGrader.Lists
