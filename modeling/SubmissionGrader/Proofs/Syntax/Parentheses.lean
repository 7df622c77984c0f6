import SubmissionGrader.Proofs.Lists
import SubmissionGrader.Proofs.Outcome
import SubmissionGrader.Proofs.Syntax.Places

/-!
# Parentheses around a node

`Concrete.parenthesizeAt` is the tree of a source in which the node at a path has been put in
parentheses: the nodes around it grow by two bytes, and what is below it or behind it moves. `Site`
says for a node of the tree which of these applies to it.
-/

namespace SubmissionGrader.Syntax

open Text (byteCount)

namespace Concrete

mutual

def shift (n : Nat) : Concrete → Concrete
  | node head children => node { head with span := head.span.shift n } (shiftAll n children)

def shiftAll (n : Nat) : List Concrete → List Concrete
  | [] => []
  | t :: rest => shift n t :: shiftAll n rest

end

def withoutField : Concrete → Concrete
  | node head children => node { head with field := none } children

/-- A node in parentheses. They take its role. -/
def parenthesized (x : Concrete) : Concrete :=
  node ⟨.named .parenthesizedExpression, false, x.field, ⟨x.span.start, x.span.stop + 2⟩⟩
    [token "(" ⟨x.span.start, x.span.start + 1⟩, (x.shift 1).withoutField,
      token ")" ⟨x.span.stop + 1, x.span.stop + 2⟩]

def parenthesizeAt : List Nat → Concrete → Concrete
  | [], x => x.parenthesized
  | i :: path, t =>
    node { t.head with span := ⟨t.span.start, t.span.stop + 2⟩ } <|
      t.children.mapIdx fun j c =>
        if j < i then c else if j = i then c.parenthesizeAt path else c.shift 2

/-- The path to a node once there are parentheses at the first path. -/
def pathAfter : List Nat → List Nat → List Nat
  | [], q => 1 :: q
  | i :: path, j :: q => j :: if j = i then pathAfter path q else q
  | _ :: _, [] => []

theorem shiftAll_eq_map (n : Nat) (ts : List Concrete) : shiftAll n ts = ts.map (shift n) := by
  induction ts with
  | nil => rfl
  | cons t rest ih => rw [shiftAll, ih, List.map_cons]

section Shift

variable (n : Nat) (t : Concrete)

@[simp] theorem children_shift : (t.shift n).children = t.children.map (shift n) := by
  cases t with
  | node head children => rw [shift, children_node, children_node, shiftAll_eq_map]

@[simp] theorem symbol_shift : (t.shift n).symbol = t.symbol := by
  cases t with
  | node head children => rw [shift]; rfl

@[simp] theorem field_shift : (t.shift n).field = t.field := by
  cases t with
  | node head children => rw [shift]; rfl

@[simp] theorem span_shift : (t.shift n).span = t.span.shift n := by
  cases t with
  | node head children => rw [shift]; rfl

@[simp] theorem children_withoutField : t.withoutField.children = t.children := by cases t; rfl

@[simp] theorem symbol_withoutField : t.withoutField.symbol = t.symbol := by cases t; rfl

@[simp] theorem field_withoutField : t.withoutField.field = none := by cases t; rfl

@[simp] theorem span_withoutField : t.withoutField.span = t.span := by cases t; rfl

end Shift

theorem children_parenthesized (x : Concrete) : x.parenthesized.children =
    [token "(" ⟨x.span.start, x.span.start + 1⟩, (x.shift 1).withoutField,
      token ")" ⟨x.span.stop + 1, x.span.stop + 2⟩] := rfl

theorem shift_zero (t : Concrete) : t.shift 0 = t := by
  induction t with
  | node head children ih =>
    have hchildren : children.map (shift 0) = children := by
      rw [List.map_congr_left ih, List.map_id']
    rw [shift, shiftAll_eq_map, hchildren, Span.shift_zero]

end Concrete

/-- Where a node lies: apart from the parentheses, and by how many bytes it moves, or around them,
and by which path they lie below it. -/
inductive Site where
  | apart (n : Nat)
  | around (path : List Nat)

namespace Site

/-- Where a child of a node lies. Between the parentheses it is one byte that nodes move by. -/
def child : Site → Nat → Site
  | apart n, _ => apart n
  | around [], _ => apart 1
  | around (i :: path), j => if j < i then apart 0 else if j = i then around path else apart 2

def place : Site → Concrete → Concrete
  | apart n, t => t.shift n
  | around path, t => t.parenthesizeAt path

def pathAfter : Site → List Nat → List Nat
  | apart _, q => q
  | around path, q => Concrete.pathAfter path q

@[simp] theorem field_place (σ : Site) (t : Concrete) : (σ.place t).field = t.field := by
  match σ with
  | apart n => exact t.field_shift n
  | around [] => rfl
  | around (i :: path) => rfl

def isAround : Site → Bool
  | apart _ => false
  | around _ => true

theorem isAround_of_child {σ : Site} {j : Nat} (h : (σ.child j).isAround = true) :
    σ.isAround = true := by
  match σ with
  | apart n => cases h
  | around path => rfl

end Site

/-! ## The two sources -/

/-- A node that has parentheses around it in another source: in front of it the sources agree, its
text stands one byte further on and what follows two bytes. -/
structure Surrounded (source other : List Char) (x : Concrete) : Prop where
  isNamed : x.isNamed = true
  isUnread : ∀ field ∈ x.field, ∃ label, field = .other label
  before : Span.Moves source other 0 ⟨0, x.span.start⟩
  within : Span.Moves source other 1 x.span
  behind : ∀ stop, Span.Moves source other 2 ⟨x.span.stop, stop⟩

/-- The source with parentheses around a part of it. -/
def surround (front inner rest : List Char) : List Char := front ++ '(' :: (inner ++ ')' :: rest)

theorem surrounded {front inner rest : List Char} {x : Concrete} (hnamed : x.isNamed = true)
    (hfield : ∀ field ∈ x.field, ∃ label, field = .other label)
    (hspan : x.span = ⟨byteCount front, byteCount front + byteCount inner⟩) :
    Surrounded (front ++ inner ++ rest) (surround front inner rest) x := by
  have hopen : byteCount (front ++ ['(']) = byteCount front + 1 := by
    rw [Text.byteCount_append]
    rfl
  have hboth : byteCount (front ++ '(' :: inner ++ [')']) = byteCount (front ++ inner) + 2 := by
    have hone : '('.utf8Size = 1 ∧ ')'.utf8Size = 1 := by decide
    simp only [Text.byteCount_append, Text.byteCount_cons, Text.byteCount_nil, hone]
    omega
  refine ⟨hnamed, hfield, ?_, ?_, fun stop => ?_⟩
  · rw [hspan, List.append_assoc, surround]
    exact Span.moves_append_left _ _ _
  · have hwithin := (Span.moves_append_left inner rest (')' :: rest)).behind hopen
    rw [hspan, surround]
    simpa using hwithin
  · have hbehind : Span.Moves (front ++ inner ++ rest) (front ++ '(' :: inner ++ [')'] ++ rest) 2
        ⟨byteCount (front ++ inner), stop⟩ :=
      ((Span.moves_self rest ⟨0, stop⟩).behind hboth).mono
        (Span.covers_iff.2 ⟨Nat.le_refl _, Nat.le_add_left _ _⟩)
    rw [hspan, surround]
    simpa using hbehind

namespace Site

variable {source other : List Char} {x t c : Concrete} {σ : Site} {j : Nat}

/-- The node has the place of the site: its text moves by the given bytes, or the node in
parentheses lies below it. -/
def Fits (source other : List Char) (x : Concrete) : Site → Concrete → Prop
  | apart n, t => t.isNested = true ∧ t.span.Moves source other n
  | around path, t => t.isNested = true ∧ t.descendant? path = some x

theorem Fits.isNested (h : σ.Fits source other x t) : t.isNested = true := by
  cases σ <;> exact h.1

theorem Fits.covers {path : List Nat} (h : (around path).Fits source other x t) :
    t.span.covers x.span = true :=
  (Concrete.isNested_descendant? h.1 h.2).2

theorem Fits.child (hx : Surrounded source other x) (h : σ.Fits source other x t)
    (hc : t.children[j]? = some c) : (σ.child j).Fits source other x c := by
  obtain ⟨-, hcovers, -, hnested⟩ := Concrete.isNested_iff.1 h.isNested
  have hmem := List.mem_of_getElem? hc
  match σ with
  | apart n => exact ⟨hnested c hmem, h.2.mono (hcovers c hmem)⟩
  | around [] =>
    cases h.2
    exact ⟨hnested c hmem, hx.within.mono (hcovers c hmem)⟩
  | around (i :: path) =>
    obtain ⟨d, hd, hpath⟩ := Option.bind_eq_some_iff.1 h.2
    have hdx := Span.covers_iff.1
      (Concrete.isNested_descendant? (hnested d (List.mem_of_getElem? hd)) hpath).2
    have hle := Concrete.start_le_stop (hnested c hmem)
    rw [Site.child]
    split
    next hlt =>
      have hfront := Concrete.stop_le_start h.1 hc hd hlt
      have hcovers : (⟨0, x.span.start⟩ : Span).covers c.span = true :=
        Span.covers_iff.2 ⟨Nat.zero_le _, Nat.le_trans hfront hdx.1⟩
      exact ⟨hnested c hmem, hx.before.mono hcovers⟩
    next =>
      split
      next heq =>
        cases heq
        cases hc.symm.trans hd
        exact ⟨hnested c hmem, hpath⟩
      next hne =>
        have hbehind := Concrete.stop_le_start h.1 hd hc (by omega)
        have hcovers : (⟨x.span.stop, c.span.stop⟩ : Span).covers c.span = true :=
          Span.covers_iff.2 ⟨Nat.le_trans hdx.2 hbehind, Nat.le_refl _⟩
        exact ⟨hnested c hmem, (hx.behind c.span.stop).mono hcovers⟩

/-- A node of the tree with parentheses shows what the given node shows, but for its role, and for
its text if the parentheses are in it. -/
structure Carries (source other : List Char) (x : Concrete) (σ : Site) (t t' : Concrete) :
    Prop where
  fits : σ.Fits source other x t
  symbol_eq : t'.symbol = t.symbol
  children_eq : t'.children = t.children.mapIdx fun j c => (σ.child j).place c
  text_eq : σ.isAround = false → t'.text other = t.text source

theorem carries_shift {n : Nat} (h : (apart n).Fits source other x t) :
    (apart n).Carries source other x t (t.shift n) where
  fits := h
  symbol_eq := t.symbol_shift n
  children_eq := by
    refine List.ext_getElem? fun j => ?_
    rw [Concrete.children_shift, List.getElem?_map, List.getElem?_mapIdx]
    rfl
  text_eq _ := by
    rw [Concrete.text, Concrete.span_shift]
    exact h.2 _ (Span.covers_refl _) (Concrete.start_le_stop h.1)

theorem carries_parenthesizeAt {i : Nat} {path : List Nat}
    (h : (around (i :: path)).Fits source other x t) :
    (around (i :: path)).Carries source other x t (t.parenthesizeAt (i :: path)) where
  fits := h
  symbol_eq := rfl
  children_eq := by
    refine List.ext_getElem? fun j => ?_
    rw [Concrete.parenthesizeAt, Concrete.children_node, List.getElem?_mapIdx, List.getElem?_mapIdx]
    refine congrArg (fun f => t.children[j]?.map f) (funext fun c => ?_)
    rw [child]
    split
    next => exact (Concrete.shift_zero c).symm
    next => split <;> rfl
  text_eq hσ := by cases hσ

theorem carries_place (h : σ.Fits source other x t) (hσ : σ ≠ around []) :
    σ.Carries source other x t (σ.place t) := by
  match σ with
  | apart n => exact carries_shift h
  | around [] => exact absurd rfl hσ
  | around (i :: path) => exact carries_parenthesizeAt h

theorem Carries.withoutField {t' : Concrete} (h : σ.Carries source other x t t') :
    σ.Carries source other x t t'.withoutField where
  fits := h.fits
  symbol_eq := by rw [Concrete.symbol_withoutField, h.symbol_eq]
  children_eq := by rw [Concrete.children_withoutField, h.children_eq]
  text_eq hσ := by rw [Concrete.text, Concrete.span_withoutField, ← h.text_eq hσ, Concrete.text]

/-- Within the parentheses stands the node that they are put around. -/
theorem carries_within (hx : Surrounded source other x) (hnested : x.isNested = true) :
    (apart 1).Carries source other x x (x.shift 1).withoutField :=
  (carries_shift ⟨hnested, hx.within⟩).withoutField

theorem isNamed_place (hx : Surrounded source other x) (h : σ.Fits source other x t) :
    (σ.place t).isNamed = t.isNamed := by
  match σ with
  | apart n => rw [place, Concrete.isNamed, Concrete.symbol_shift, Concrete.isNamed]
  | around [] =>
    cases h.2
    exact hx.isNamed.symm
  | around (i :: path) => rfl

/-- The children of a node and of its counterpart, one by one. -/
theorem Carries.forall₂_children {R : Concrete → Concrete → Prop} {t' : Concrete}
    (h : σ.Carries source other x t t')
    (hR : ∀ j c, t.children[j]? = some c → R c ((σ.child j).place c)) :
    List.Forall₂ R t.children t'.children := by
  rw [h.children_eq]
  refine Lists.forall₂_of_getElem? List.length_mapIdx.symm fun j c c' hc hc' => ?_
  rw [List.getElem?_mapIdx, hc, Option.map_some, Option.some.injEq] at hc'
  rw [← hc']
  exact hR j c hc

theorem Carries.children (hx : Surrounded source other x) {t' : Concrete}
    (h : σ.Carries source other x t t') :
    List.Forall₂ (fun c c' => ∃ τ : Site, τ.Fits source other x c ∧ c' = τ.place c ∧
      (τ.isAround = true → σ.isAround = true)) t.children t'.children :=
  h.forall₂_children fun j _ hc => ⟨σ.child j, h.fits.child hx hc, rfl, isAround_of_child⟩

/-- What fills a role that is read is no node in parentheses. -/
theorem Carries.child? (hx : Surrounded source other x) {t' : Concrete}
    (h : σ.Carries source other x t t') {field : Field} (hfield : ∀ label, field ≠ .other label) :
    Option.Rel (fun c c' => ∃ τ : Site, τ.Carries source other x c c' ∧
      (τ.isAround = true → σ.isAround = true)) (t.child? field) (t'.child? field) := by
  refine rel_mono (Lists.rel_find? (h.children hx) ?_) ?_
  · rintro c - ⟨τ, -, rfl, -⟩
    rw [field_place]
  · rintro c - ⟨⟨τ, hfits, rfl, haround⟩, hc⟩
    refine ⟨τ, carries_place hfits ?_, haround⟩
    rintro rfl
    cases hfits.2
    obtain ⟨label, hlabel⟩ := hx.isUnread field (eq_of_beq hc)
    exact hfield label hlabel

end Site

end SubmissionGrader.Syntax
