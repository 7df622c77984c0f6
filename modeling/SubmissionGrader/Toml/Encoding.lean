import SubmissionGrader.Json.Record
import SubmissionGrader.Toml.Document

/-!
# TOML values as records

A TOML value is turned into the raw structure that records are decoded from, so that a record has
one decoder for both formats. A float is no whole number there, and a moment is a record of which no
field is known.
-/

namespace SubmissionGrader.Toml

open Json (Raw)

def rawText (text : String) : Raw := .string (text.toList.map .char)

mutual

def Value.toRaw : Value → Raw
  | .text text => rawText text
  | .integer n => .number (toString n).toList
  | .float digits => .number digits
  | .boolean b => .boolean b
  | .moment => .object []
  | .array items => .array (itemsToRaw items)
  | .table members => .object (membersToRaw members)

def itemsToRaw : List Value → List Raw
  | [] => []
  | item :: rest => item.toRaw :: itemsToRaw rest

def membersToRaw : List (String × Value) → List (List Json.Piece × Raw)
  | [] => []
  | (key, value) :: rest => (key.toList.map .char, value.toRaw) :: membersToRaw rest

end

def readRaw? (text : String) : Option Raw := (read? text).map Value.toRaw

end SubmissionGrader.Toml
