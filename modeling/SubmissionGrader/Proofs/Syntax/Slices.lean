import SubmissionGrader.Syntax.Position

/-!
# Slices of a text at byte offsets

What is in front of a byte offset, behind it, and between two of them, is said of texts that are put
together from these parts. The offsets at which a text can be cut are those behind its prefixes
(`isValid_iff_exists_prefix`).
-/

namespace SubmissionGrader.Syntax

open Text (byteCount)

variable {cs ds : List Char} {n : Nat}

/-! ## What is behind an offset -/

theorem suffixFrom_byteCount_append (cs rest : List Char) :
    suffixFrom (cs ++ rest) (byteCount cs) = some rest := by
  induction cs with
  | nil => rw [Text.byteCount_nil, suffixFrom, List.nil_append]
  | cons c cs ih =>
    obtain ⟨k, hk⟩ := Nat.exists_eq_add_of_lt c.utf8Size_pos
    have hnext : k + byteCount cs + 1 - c.utf8Size = byteCount cs := by omega
    have hcount : byteCount (c :: cs) = k + byteCount cs + 1 := by
      rw [Text.byteCount_cons]
      omega
    rw [List.cons_append, hcount, suffixFrom, if_pos (by omega), hnext, ih]

theorem suffixFrom_byteCount (cs : List Char) : suffixFrom cs (byteCount cs) = some [] := by
  have h := suffixFrom_byteCount_append cs []
  rwa [List.append_nil] at h

theorem suffixFrom_add {m : Nat} (h : suffixFrom cs m = some ds) (n : Nat) :
    suffixFrom cs (m + n) = suffixFrom ds n := by
  induction cs generalizing m with
  | nil =>
    cases m with
    | zero =>
      cases h
      rw [Nat.zero_add]
    | succ m => cases h
  | cons c cs ih =>
    cases m with
    | zero =>
      cases h
      rw [Nat.zero_add]
    | succ m =>
      rw [suffixFrom] at h
      split at h
      next hsize =>
        have hnext : m + n + 1 - c.utf8Size = m + 1 - c.utf8Size + n := by omega
        rw [Nat.succ_add, suffixFrom, if_pos (by omega), hnext, ih h]
      next => cases h

theorem suffixFrom_append (h : n ≤ byteCount cs) (more : List Char) :
    suffixFrom (cs ++ more) n = (suffixFrom cs n).map (· ++ more) := by
  induction cs generalizing n with
  | nil =>
    obtain rfl : n = 0 := Nat.le_zero.1 h
    rw [suffixFrom, suffixFrom, Option.map_some]
  | cons c cs ih =>
    cases n with
    | zero => rw [suffixFrom, suffixFrom, Option.map_some]
    | succ n =>
      rw [Text.byteCount_cons] at h
      rw [List.cons_append, suffixFrom, suffixFrom]
      split
      next => exact ih (by omega)
      next => rfl

theorem byteCount_of_suffixFrom (h : suffixFrom cs n = some ds) :
    n + byteCount ds = byteCount cs := by
  induction cs generalizing n with
  | nil =>
    cases n with
    | zero =>
      cases h
      rw [Nat.zero_add]
    | succ n => cases h
  | cons c cs ih =>
    cases n with
    | zero =>
      cases h
      rw [Nat.zero_add]
    | succ n =>
      rw [suffixFrom] at h
      split at h
      next hsize =>
        have hrest := ih h
        rw [Text.byteCount_cons]
        omega
      next => cases h

/-! ## What is in front of an offset -/

theorem prefixOf_byteCount_append (cs more : List Char) :
    prefixOf (cs ++ more) (byteCount cs) = some cs := by
  induction cs with
  | nil => rw [Text.byteCount_nil, prefixOf]
  | cons c cs ih =>
    obtain ⟨k, hk⟩ := Nat.exists_eq_add_of_lt c.utf8Size_pos
    have hcount : byteCount (c :: cs) = k + byteCount cs + 1 := by
      rw [Text.byteCount_cons]
      omega
    have hnext : k + byteCount cs + 1 - c.utf8Size = byteCount cs := by omega
    rw [List.cons_append, hcount, prefixOf, if_pos (by omega), hnext, ih, Option.map_some]

theorem prefixOf_append (h : n ≤ byteCount cs) (more : List Char) :
    prefixOf (cs ++ more) n = prefixOf cs n := by
  induction cs generalizing n with
  | nil =>
    obtain rfl : n = 0 := Nat.le_zero.1 h
    rw [prefixOf, prefixOf]
  | cons c cs ih =>
    cases n with
    | zero => rw [prefixOf, prefixOf]
    | succ n =>
      rw [Text.byteCount_cons] at h
      rw [List.cons_append, prefixOf, prefixOf, ih (by omega)]

theorem exists_append_of_prefixOf (h : prefixOf cs n = some ds) :
    ∃ rest, cs = ds ++ rest ∧ suffixFrom cs n = some rest := by
  induction cs generalizing n ds with
  | nil =>
    cases n with
    | zero =>
      cases h
      exact ⟨[], rfl, rfl⟩
    | succ n => cases h
  | cons c cs ih =>
    cases n with
    | zero =>
      cases h
      exact ⟨c :: cs, rfl, rfl⟩
    | succ n =>
      rw [prefixOf] at h
      split at h
      next hsize =>
        obtain ⟨es, hes, rfl⟩ := Option.map_eq_some_iff.1 h
        obtain ⟨rest, rfl, hrest⟩ := ih hes
        exact ⟨rest, rfl, by rw [suffixFrom, if_pos hsize, hrest]⟩
      next => cases h

theorem prefixOf_eq_some_iff : prefixOf cs n = some ds ↔ ds <+: cs ∧ byteCount ds = n := by
  constructor
  · intro h
    obtain ⟨rest, rfl, hrest⟩ := exists_append_of_prefixOf h
    have hcount := byteCount_of_suffixFrom hrest
    rw [Text.byteCount_append] at hcount
    exact ⟨List.prefix_append ds rest, by omega⟩
  · rintro ⟨⟨rest, rfl⟩, rfl⟩
    exact prefixOf_byteCount_append ds rest

/-! ## What is between two offsets -/

theorem charactersBetween?_append (front inner rest : List Char) :
    charactersBetween? (front ++ inner ++ rest) (byteCount front) (byteCount (front ++ inner)) =
      some inner := by
  rw [charactersBetween?, Text.byteCount_append, if_pos (Nat.le_add_right _ _), List.append_assoc,
    suffixFrom_byteCount_append, Option.bind_some, Nat.add_sub_cancel_left,
    prefixOf_byteCount_append]

/-! ## Offsets between characters -/

theorem byteCount_toList (s : String) : byteCount s.toList = s.utf8ByteSize := by
  rw [← s.ofList_toList, String.toList_ofList]
  generalize s.toList = cs
  induction cs with
  | nil => rfl
  | cons c cs ih =>
    rw [String.ofList_cons, String.utf8ByteSize_append, String.utf8ByteSize_singleton, ← ih,
      Text.byteCount_cons]

/-- The offsets at which a text can be cut are those behind its prefixes. -/
theorem isValid_iff_exists_prefix {s : String} {n : Nat} :
    (String.Pos.Raw.mk n).IsValid s ↔ ∃ front, front <+: s.toList ∧ byteCount front = n := by
  rw [String.Pos.Raw.isValid_iff_exists_append]
  constructor
  · rintro ⟨front, rest, rfl, hn⟩
    refine ⟨front.toList, ⟨rest.toList, String.toList_append.symm⟩, ?_⟩
    rw [byteCount_toList]
    exact (congrArg String.Pos.Raw.byteIdx hn).symm
  · rintro ⟨front, ⟨rest, heq⟩, hn⟩
    refine ⟨String.ofList front, String.ofList rest, ?_, ?_⟩
    · rw [← String.ofList_append, heq, String.ofList_toList]
    · rw [← hn, ← String.toList_ofList (l := front), byteCount_toList, String.toList_ofList]
      rfl

end SubmissionGrader.Syntax
