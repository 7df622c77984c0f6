/-!
# Texts as 16-bit units

The checker language measures, indexes and orders texts by their 16-bit units: a character beyond
the first 65536 is two units.
-/

namespace SubmissionGrader.Text

def charUnits (c : Char) : List Nat :=
  if c.toNat < 0x10000 then [c.toNat]
  else [0xD800 + (c.toNat - 0x10000) / 0x400, 0xDC00 + (c.toNat - 0x10000) % 0x400]

def units (s : String) : List Nat := s.toList.flatMap charUnits

/-- Whether a unit is half of a pair. -/
def isSurrogate (unit : Nat) : Bool := 0xD800 ≤ unit && unit < 0xE000

/-- A single unit as a text; half of a pair has no character and is replaced. -/
def ofUnit (unit : Nat) : String :=
  (if isSurrogate unit then '\ufffd' else Char.ofNat unit).toString

def compareUnits (s t : String) : Ordering := compare (units s) (units t)

theorem units_append (s t : String) : units (s ++ t) = units s ++ units t := by
  simp [units, String.toList_append]

end SubmissionGrader.Text
