/-!
# Searching in texts

Occurrences of one text in another, and the pieces between separators.
-/

namespace SubmissionGrader.Text

def occurs (part : List Char) : List Char → Bool
  | [] => part.isEmpty
  | c :: rest => part.isPrefixOf (c :: rest) || occurs part rest

def contains (s part : String) : Bool := occurs part.toList s.toList

/-- A text occurs in another iff that one is made of something, the text, and something. -/
theorem occurs_iff_infix (part cs : List Char) : occurs part cs = true ↔ part <:+: cs := by
  induction cs with
  | nil => simp [occurs]
  | cons c rest ih => simp [occurs, ih, List.infix_cons_iff]

/-- The pieces of a text between the occurrences of a character; there is at least one. -/
def splitOn (separator : Char) : List Char → List (List Char)
  | [] => [[]]
  | c :: rest =>
    if c == separator then [] :: splitOn separator rest
    else
      match splitOn separator rest with
      | [] => [[c]]
      | piece :: pieces => (c :: piece) :: pieces

theorem splitOn_ne_nil (separator : Char) (cs : List Char) : splitOn separator cs ≠ [] := by
  cases cs with
  | nil => simp [splitOn]
  | cons c rest =>
    rw [splitOn]
    split
    · simp
    · split <;> simp

/-- The pieces, joined by the separator, are the text. -/
theorem intercalate_splitOn (separator : Char) (cs : List Char) :
    [separator].intercalate (splitOn separator cs) = cs := by
  induction cs with
  | nil => rfl
  | cons c rest ih =>
    rw [splitOn]
    split
    next h =>
      rw [beq_iff_eq] at h
      cases hs : splitOn separator rest with
      | nil => exact absurd hs (splitOn_ne_nil separator rest)
      | cons piece pieces =>
        rw [hs] at ih
        simp [List.intercalate, h, ← ih]
    next =>
      split
      next hs => exact absurd hs (splitOn_ne_nil separator rest)
      next piece pieces hs =>
        rw [hs] at ih
        cases pieces <;> simp_all [List.intercalate]

end SubmissionGrader.Text
