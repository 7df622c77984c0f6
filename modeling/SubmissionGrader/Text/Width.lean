/-!
# Width in bytes

Offsets into a text count the bytes that its characters take in UTF-8.
-/

namespace SubmissionGrader.Text

def byteCount (cs : List Char) : Nat := cs.foldl (fun n c => n + c.utf8Size) 0

theorem foldl_utf8Size (cs : List Char) (n : Nat) :
    cs.foldl (fun n c => n + c.utf8Size) n = n + byteCount cs := by
  induction cs generalizing n with
  | nil => rfl
  | cons c rest ih =>
    rw [byteCount, List.foldl_cons, List.foldl_cons, ih, ih (0 + c.utf8Size), Nat.zero_add,
      Nat.add_assoc]

@[simp] theorem byteCount_nil : byteCount [] = 0 := rfl

@[simp] theorem byteCount_cons (c : Char) (rest : List Char) :
    byteCount (c :: rest) = c.utf8Size + byteCount rest := by
  rw [byteCount, List.foldl_cons, foldl_utf8Size, Nat.zero_add]

@[simp] theorem byteCount_append (cs rest : List Char) :
    byteCount (cs ++ rest) = byteCount cs + byteCount rest := by
  rw [byteCount, List.foldl_append, foldl_utf8Size, foldl_utf8Size, Nat.zero_add]

theorem length_le_byteCount (cs : List Char) : cs.length ≤ byteCount cs := by
  induction cs with
  | nil => exact Nat.le_refl 0
  | cons c rest ih =>
    have hc := c.utf8Size_pos
    rw [byteCount_cons, List.length_cons]
    omega

/-- Bytes and characters are the same number if every character takes one byte. -/
theorem byteCount_eq_length_iff {cs : List Char} :
    byteCount cs = cs.length ↔ ∀ c ∈ cs, c.utf8Size = 1 := by
  induction cs with
  | nil => simp
  | cons c rest ih =>
    have hc := c.utf8Size_pos
    have hrest := length_le_byteCount rest
    rw [byteCount_cons, List.length_cons, List.forall_mem_cons, ← ih]
    omega

end SubmissionGrader.Text
