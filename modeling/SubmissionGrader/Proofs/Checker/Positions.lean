import SubmissionGrader.Checker.Evaluation
import SubmissionGrader.Proofs.Checker.Comparisons
import SubmissionGrader.Proofs.Number.Decimal
import SubmissionGrader.Proofs.Outcome
import SubmissionGrader.Proofs.Text.Units

/-!
# Positions in lists and texts

A list has its items, and a text its 16-bit units, as elements (`Value.HasElements`). The length of
such a value is the number of its elements, an index gives the element at a position, and a list
includes what is equal to one of its elements. So the three operations agree (`positions_agree`):
nothing stands at numbers that are no positions (`IsPosition`), and nothing at positions from the
length on.
-/

namespace SubmissionGrader.Checker

open Comparison

namespace Value

/-- The elements of a list are its items, those of a text its 16-bit units, each as a text. -/
inductive HasElements : Value → List String → Prop
  | list (items : List String) : HasElements (list items) items
  | text {s : String} {units : List Nat} (h : Text.IsUtf16 s.toList units) :
      HasElements (text s) (units.map Text.ofUnit)

variable {t : Value} {elements : List String}

theorem HasElements.lengthOf_eq (h : t.HasElements elements) :
    lengthOf t = .ok (.number (.ofNat elements.length)) := by
  cases h with
  | list items => rfl
  | text h =>
    rw [lengthOf, List.length_map, Text.isUtf16_iff.1 h]
    rfl

theorem HasElements.indexInto_eq (h : t.HasElements elements) (position : Value) :
    indexInto t position =
      .ok (((positionOf? position).bind fun i => elements[i]?).elim .undefined .text) := by
  cases h with
  | list items => rfl
  | @text s units h =>
    have hunits : Text.units s = units := (Text.isUtf16_iff.1 h).symm
    rw [indexInto, hunits]
    cases positionOf? position with
    | none => rfl
    | some i =>
      rw [Option.bind_some, Option.bind_some, List.getElem?_map]
      cases units[i]? <;> rfl

end Value

/-! ## Numbers as positions -/

/-- A number is a position if it is whole and not negative. -/
def IsPosition (i : Binary64) : Prop :=
  i.isWhole = true ∧ atLeast.holds (.number i) (.number .zero) = true

section Numbers

variable {i : Binary64} {n : Nat}

theorem atLeast_zero_iff : atLeast.holds (.number i) (.number .zero) = true ↔
    ∃ z : Int, i.level? = some z ∧ 0 ≤ z := by
  have hcompare : (Value.number i).compare? (.number .zero) = i.compare? .zero := rfl
  have hzero : Binary64.zero.level? = some 0 := by decide +kernel
  rw [holds, hcompare, Binary64.compare?, hzero]
  cases i.level? with
  | none => simp
  | some z => simp [Int.compare_eq_lt]

theorem isPosition_iff : IsPosition i ↔ ∃ k, i.toNat? = some k := by
  rw [Binary64.exists_toNat?_iff, IsPosition, atLeast_zero_iff]

/-- A position is compared with a length as the natural numbers are. -/
theorem compare?_ofNat {k : Nat} (hi : i.toNat? = some k) (hn : n < 2 ^ 53) :
    (Value.number i).compare? (.number (.ofNat n)) = some (compare k n) := by
  have hcompare : (Value.number i).compare? (.number (.ofNat n)) = i.compare? (.ofNat n) := rfl
  have hpos : (0 : Int) < Magnitude.stepsInOne := Int.natCast_pos.2 Magnitude.stepsInOne_pos
  have hlevels : compare (k * Magnitude.stepsInOne : Int) (n * Magnitude.stepsInOne : Int) =
      compare k n := by
    cases h : compare k n with
    | lt =>
      rw [Int.compare_eq_lt]
      exact Int.mul_lt_mul_of_pos_right (Int.ofNat_lt.2 (Nat.compare_eq_lt.1 h)) hpos
    | eq =>
      rw [Nat.compare_eq_eq.1 h]
      exact Int.compare_eq_eq.2 rfl
    | gt =>
      rw [Int.compare_eq_gt]
      exact Int.mul_lt_mul_of_pos_right (Int.ofNat_lt.2 (Nat.compare_eq_gt.1 h)) hpos
  rw [hcompare, Binary64.compare?, (Binary64.toNat?_eq_some_iff.1 hi).2, Binary64.level?_ofNat hn]
  exact congrArg some hlevels

theorem atLeast_ofNat_iff {k : Nat} (hi : i.toNat? = some k) (hn : n < 2 ^ 53) :
    atLeast.holds (.number i) (.number (.ofNat n)) = true ↔ n ≤ k := by
  rw [holds, compare?_ofNat hi hn]
  simp [Nat.compare_eq_lt]

theorem less_ofNat_iff {k : Nat} (hi : i.toNat? = some k) (hn : n < 2 ^ 53) :
    less.holds (.number i) (.number (.ofNat n)) = true ↔ k < n := by
  rw [less_iff, compare?_ofNat hi hn, Option.some.injEq, Nat.compare_eq_lt]

theorem toNat?_eq_of_equals {k : Nat} (hi : IsPosition i) (hk : k < 2 ^ 53)
    (h : i.equals (.ofNat k) = true) : i.toNat? = some k := by
  obtain ⟨z, hz, hlevel⟩ := Binary64.equals_iff_level?.1 h
  rw [Binary64.level?_ofNat hk, Option.some.injEq] at hlevel
  exact Binary64.toNat?_eq_some_iff.2 ⟨hi.1, by rw [hz, hlevel]⟩

/-- A natural number can be given by its digits as well. -/
theorem naturalOfText?_toString (k : Nat) : naturalOfText? (toString k) = some k := by
  have htext : (toString k).toList = Nat.toDigits 10 k := by
    rw [Nat.toString_eq_ofList_toDigits, String.toList_ofList]
  have hdigits : (!(Nat.toDigits 10 k).isEmpty && (Nat.toDigits 10 k).all Char.isDigit) = true :=
    not_isEmpty_and_all_isDigit_iff.2 ⟨Nat.toDigits_ne_nil, areDigits_toDigits k⟩
  unfold naturalOfText?
  rw [htext]
  split
  next rest h => exact absurd rfl ((isWritten_toDigits k).head '+' (by rw [h]; rfl)).2
  next => rw [if_pos hdigits, digitsValue_toDigits]

end Numbers

/-! ## The three operations -/

/-- What stands at a place is missing if nothing stands there. -/
theorem strictlyEqual_undefined (o : Option String) :
    strictlyEqual.holds (o.elim .undefined .text) .undefined = o.isNone := by
  cases o <;> rfl

namespace Expression

section Evaluation

variable {context : FeatureContext} {target position needle : Expression} {t v : Value}
variable {elements items : List String}

theorem eval_length (ht : target.eval context = .ok t) (h : t.HasElements elements) :
    (length target).eval context = .ok (.number (.ofNat elements.length)) := by
  rw [eval, ht, ok_bind, h.lengthOf_eq]

theorem eval_index (ht : target.eval context = .ok t) (h : t.HasElements elements)
    (hv : position.eval context = .ok v) : (index target position).eval context =
      .ok (((positionOf? v).bind fun i => elements[i]?).elim .undefined .text) := by
  rw [eval, ht, hv, ok_bind, ok_bind, h.indexInto_eq]

theorem eval_compare (comparison : Comparison) (ht : target.eval context = .ok t)
    (hv : position.eval context = .ok v) :
    (compare comparison target position).eval context = .ok (.boolean (comparison.holds t v)) := by
  rw [eval, ht, hv]
  rfl

section Index

variable {i : Binary64} (ht : target.eval context = .ok t) (h : t.HasElements elements)
  (hi : position.eval context = .ok (.number i))

include ht h hi

theorem eval_index_of_not_isPosition (hposition : ¬IsPosition i) :
    (index target position).eval context = .ok .undefined := by
  have hnone : positionOf? (.number i) = none :=
    Option.eq_none_iff_forall_ne_some.2 fun k hk => hposition (isPosition_iff.2 ⟨k, hk⟩)
  rw [eval_index ht h hi, hnone]
  rfl

theorem eval_index_of_equals (hlength : elements.length < 2 ^ 53) (hposition : IsPosition i)
    {k : Nat} (hk : k < elements.length) (hequal : i.equals (.ofNat k) = true) :
    (index target position).eval context = .ok (.text elements[k]) := by
  have hnumber : positionOf? (.number i) = some k :=
    toNat?_eq_of_equals hposition (Nat.lt_trans hk hlength) hequal
  rw [eval_index ht h hi, hnumber, Option.bind_some, List.getElem?_eq_getElem hk]
  rfl

/-- Nothing stands at a position exactly if it is not below the length. -/
theorem exists_outside (hlength : elements.length < 2 ^ 53) (hposition : IsPosition i) :
    ∃ outside : Bool,
      (compare strictlyEqual (index target position) undefined).eval context =
        .ok (.boolean outside) ∧
      (compare atLeast position (length target)).eval context = .ok (.boolean outside) := by
  obtain ⟨k, hk⟩ := isPosition_iff.1 hposition
  have hnumber : positionOf? (.number i) = some k := hk
  have houtside : atLeast.holds (.number i) (.number (.ofNat elements.length)) =
      elements[k]?.isNone := by
    rw [Bool.eq_iff_iff, atLeast_ofNat_iff hk hlength, Option.isNone_iff_eq_none,
      List.getElem?_eq_none_iff]
  refine ⟨elements[k]?.isNone, ?_, ?_⟩
  · have hundefined : undefined.eval context = .ok .undefined := rfl
    rw [eval_compare strictlyEqual (eval_index ht h hi) hundefined, strictlyEqual_undefined,
      hnumber, Option.bind_some]
  · rw [eval_compare atLeast hi (eval_length ht h), houtside]

end Index

section Includes

variable (ht : target.eval context = .ok (.list items)) (hv : needle.eval context = .ok v)

include ht hv

/-- A list includes a value that is equal to one of its elements. -/
theorem exists_included : ∃ included : Bool,
    (includes target needle).eval context = .ok (.boolean included) ∧
      (included = true ↔ ∃ k < items.length,
        strictlyEqual.holds (items[k]?.elim .undefined .text) v = true) := by
  refine ⟨_, by rw [eval, ht, hv]; rfl, ?_⟩
  have hitem {k : Nat} (hk : k < items.length) :
      items[k]?.elim Value.undefined Value.text = .text items[k] := by
    rw [List.getElem?_eq_getElem hk]
    rfl
  cases v with
  | text s =>
    rw [List.contains_iff_mem, List.mem_iff_getElem]
    constructor
    · rintro ⟨k, hk, rfl⟩
      exact ⟨k, hk, by rw [hitem hk]; exact beq_self_eq_true _⟩
    · rintro ⟨k, hk, hequal⟩
      rw [hitem hk] at hequal
      exact ⟨k, hk, beq_iff_eq.1 hequal⟩
  | _ =>
    -- Items are texts, so nothing else is equal to one.
    refine iff_of_false Bool.false_ne_true ?_
    rintro ⟨k, hk, hequal⟩
    rw [hitem hk] at hequal
    cases hequal

theorem eval_element_iff {p : Value} {k : Nat} (hp : position.eval context = .ok p)
    (hk : positionOf? p = some k) :
    (compare strictlyEqual (index target position) needle).eval context = .ok (.boolean true) ↔
      strictlyEqual.holds (items[k]?.elim .undefined .text) v = true := by
  rw [eval_compare strictlyEqual (eval_index ht (.list items) hp) hv, hk, Option.bind_some]
  simp

/-- The positions below the length of a list that is not too long are its exact numbers. -/
theorem exists_position_iff (hlength : items.length < 2 ^ 53) :
    (∃ i, IsPosition i ∧
      (compare less (number i) (length target)).eval context = .ok (.boolean true) ∧
      (compare strictlyEqual (index target (number i)) needle).eval context =
        .ok (.boolean true)) ↔
      ∃ k < items.length, strictlyEqual.holds (items[k]?.elim .undefined .text) v = true := by
  have hnumber (i : Binary64) : (number i).eval context = .ok (.number i) := rfl
  have hbelow (i : Binary64) :
      (compare less (number i) (length target)).eval context = .ok (.boolean true) ↔
        less.holds (.number i) (.number (.ofNat items.length)) = true := by
    rw [eval_compare less (hnumber i) (eval_length ht (.list items))]
    simp
  constructor
  · rintro ⟨i, hposition, hless, hequal⟩
    obtain ⟨k, hk⟩ := isPosition_iff.1 hposition
    exact ⟨k, (less_ofNat_iff hk hlength).1 ((hbelow i).1 hless),
      (eval_element_iff ht hv (hnumber i) hk).1 hequal⟩
  · rintro ⟨k, hk, hequal⟩
    have hexact : (Binary64.ofNat k).toNat? = some k :=
      Binary64.toNat?_ofNat (Nat.lt_trans hk hlength)
    exact ⟨.ofNat k, isPosition_iff.2 ⟨k, hexact⟩,
      (hbelow _).2 ((less_ofNat_iff hexact hlength).2 hk),
      (eval_element_iff ht hv (hnumber _) hexact).2 hequal⟩

end Includes

end Evaluation

/-- Length, index and inclusion agree. The length of a list or a text is the number of its elements.
At a number that is no position there is nothing; at a position there is the element with that
number, and nothing exactly if the position is not below the length. A list includes what is equal
to the element at one of its positions, which digits can give however long the list is, and numbers
as long as they are exact. -/
theorem positions_agree (context : FeatureContext) (target : Expression) :
    (∀ t elements, target.eval context = .ok t → t.HasElements elements →
      elements.length < 2 ^ 53 →
        (length target).eval context = .ok (.number (.ofNat elements.length)) ∧
        ∀ position i, position.eval context = .ok (.number i) →
          (¬IsPosition i → (index target position).eval context = .ok .undefined) ∧
          (IsPosition i →
            (∀ k (hk : k < elements.length), i.equals (.ofNat k) = true →
              (index target position).eval context = .ok (.text elements[k])) ∧
            ∃ outside : Bool,
              (compare strictlyEqual (index target position) undefined).eval context =
                .ok (.boolean outside) ∧
              (compare atLeast position (length target)).eval context =
                .ok (.boolean outside))) ∧
    ∀ items needle v, target.eval context = .ok (.list items) → needle.eval context = .ok v →
      ∃ included : Bool,
        (includes target needle).eval context = .ok (.boolean included) ∧
        (included = true ↔ ∃ k < items.length,
          (compare strictlyEqual (index target (text (toString k))) needle).eval context =
            .ok (.boolean true)) ∧
        (items.length < 2 ^ 53 → (included = true ↔ ∃ i, IsPosition i ∧
          (compare less (number i) (length target)).eval context = .ok (.boolean true) ∧
          (compare strictlyEqual (index target (number i)) needle).eval context =
            .ok (.boolean true))) := by
  constructor
  · intro t elements ht h hlength
    refine ⟨eval_length ht h, fun position i hi => ⟨eval_index_of_not_isPosition ht h hi, ?_⟩⟩
    intro hposition
    exact ⟨fun k hk hequal => eval_index_of_equals ht h hi hlength hposition hk hequal,
      exists_outside ht h hi hlength hposition⟩
  · intro items needle v ht hv
    obtain ⟨included, heval, hiff⟩ := exists_included ht hv
    refine ⟨included, heval, ?_, fun hlength => hiff.trans (exists_position_iff ht hv hlength).symm⟩
    rw [hiff]
    refine exists_congr fun k => and_congr_right fun _ => ?_
    have hdigits : positionOf? (.text (toString k)) = some k := naturalOfText?_toString k
    exact (eval_element_iff ht hv rfl hdigits).symm

/-- A character that takes two units: the second one stands at the last position below the length.
The items of a list are what it includes. -/
theorem positions_agree_surrogates :
    (Value.text "a😀").HasElements ["a", "\ufffd", "\ufffd"] ∧ IsPosition (.ofNat 2) ∧
      (length (text "a😀")).eval {} = .ok (.number (.ofNat 3)) ∧
      (index (text "a😀") (number (.ofNat 2))).eval {} = .ok (.text "\ufffd") ∧
      ∃ included : Bool,
        (includes (name "functionNames") (text "f")).eval { functionNames := ["e", "f"] } =
          .ok (.boolean included) ∧
        (included = true ↔ ∃ i, IsPosition i ∧
          (compare less (number i) (length (name "functionNames"))).eval
            { functionNames := ["e", "f"] } = .ok (.boolean true) ∧
          (compare strictlyEqual (index (name "functionNames") (number i)) (text "f")).eval
            { functionNames := ["e", "f"] } = .ok (.boolean true)) := by
  have hunits : Text.IsUtf16 "a😀".toList [0x61, 0xD83D, 0xDE00] :=
    Text.isUtf16_iff.2 (by decide +kernel)
  have helements : (Value.text "a😀").HasElements ["a", "\ufffd", "\ufffd"] := .text hunits
  have hposition : IsPosition (.ofNat 2) := by
    refine isPosition_iff.2 ⟨2, ?_⟩
    decide +kernel
  obtain ⟨hlength, hindex⟩ := (positions_agree {} (text "a😀")).1 _ _ rfl helements (by decide)
  obtain ⟨included, heval, -, hincluded⟩ :=
    (positions_agree { functionNames := ["e", "f"] } (name "functionNames")).2 ["e", "f"]
      (text "f") (.text "f") rfl rfl
  exact ⟨helements, hposition, hlength,
    ((hindex (number (.ofNat 2)) (.ofNat 2) rfl).2 hposition).1 2 (by decide) (by decide +kernel),
    included, heval, hincluded (by decide)⟩

end Expression

end SubmissionGrader.Checker
