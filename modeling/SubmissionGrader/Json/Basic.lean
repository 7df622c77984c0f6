import SubmissionGrader.Json.Raw
import SubmissionGrader.Number.Decimal

/-!
# JSON values

`Json` is what a JSON text denotes. Objects keep the order of their members. `Json.compact` and
`Json.pretty` write a value on one line and on many; `Json.ofText?` reads a text in which every
string denotes a text, every number is in range, and nesting is limited.
-/

namespace SubmissionGrader

/-- A JSON value. Numbers are kept as they are written. -/
inductive Json where
  | null
  | boolean (value : Bool)
  | number (digits : String)
  | string (value : String)
  | array (items : List Json)
  | object (members : List (String × Json))
  deriving Repr

namespace Json

def natural (n : Nat) : Json := number (toString n)

def strings (items : List String) : Json := array (items.map string)

/-- A member that is there only if its value is. -/
def optional {α : Type} (key : String) (encode : α → Json) : Option α → List (String × Json)
  | some value => [(key, encode value)]
  | none => []

mutual

def compactChars : Json → List Char
  | null => "null".toList
  | boolean true => "true".toList
  | boolean false => "false".toList
  | number digits => digits.toList
  | string value => quote value
  | array items => '[' :: (compactItems items ++ [']'])
  | object members => '\x7b' :: (compactMembers members ++ ['\x7d'])

def compactItems : List Json → List Char
  | [] => []
  | [item] => compactChars item
  | item :: rest => compactChars item ++ ',' :: compactItems rest

def compactMembers : List (String × Json) → List Char
  | [] => []
  | [(key, value)] => quote key ++ ':' :: compactChars value
  | (key, value) :: rest => quote key ++ ':' :: (compactChars value ++ ',' :: compactMembers rest)

end

def compact (value : Json) : String := String.ofList value.compactChars

/-- A new line, indented by two blanks per level. -/
def newLine (level : Nat) : List Char := '\n' :: List.replicate (2 * level) ' '

mutual

/-- The value with every item and member on its own line. -/
def prettyChars (level : Nat) : Json → List Char
  | array (item :: rest) => '[' :: (prettyItems (level + 1) (item :: rest) ++ newLine level ++ [']'])
  | object (member :: rest) =>
    '\x7b' :: (prettyMembers (level + 1) (member :: rest) ++ newLine level ++ ['\x7d'])
  | null => "null".toList
  | boolean true => "true".toList
  | boolean false => "false".toList
  | number digits => digits.toList
  | string value => quote value
  | array [] => "[]".toList
  | object [] => ['\x7b', '\x7d']

def prettyItems (level : Nat) : List Json → List Char
  | [] => []
  | [item] => newLine level ++ prettyChars level item
  | item :: rest => newLine level ++ prettyChars level item ++ ',' :: prettyItems level rest

def prettyMembers (level : Nat) : List (String × Json) → List Char
  | [] => []
  | [(key, value)] => newLine level ++ quote key ++ ':' :: ' ' :: prettyChars level value
  | (key, value) :: rest =>
    newLine level ++ quote key ++ ':' :: ' ' :: (prettyChars level value ++
      ',' :: prettyMembers level rest)

end

def pretty (value : Json) : String := String.ofList (value.prettyChars 0)

/-- The members of an object, each key once, with its last value. -/
def lastMembers (members : List (String × Json)) : List (String × Json) :=
  members.foldr (fun member rest =>
    if rest.any (·.1 == member.1) then rest else member :: rest) []

def member? (key : String) : Json → Option Json
  | object members => (members.find? (·.1 == key)).map Prod.snd
  | _ => none

/-- Nesting up to this number of levels can be read. -/
def maxLevels : Nat := 127

mutual

/-- The value that a raw text denotes, with at most `levels` arrays and objects around one
another. -/
def ofRaw? (levels : Nat) : Raw → Option Json
  | .null => some null
  | .boolean value => some (boolean value)
  | .number digits =>
    match Binary64.ofText? digits with
    | some (.finite _ _) => some (number (String.ofList digits))
    | _ => none
  | .string pieces => (assemble? pieces).map fun cs => string (String.ofList cs)
  | .array items =>
    match levels with
    | 0 => none
    | levels + 1 => (itemsOfRaw? levels items).map array
  | .object members =>
    match levels with
    | 0 => none
    | levels + 1 => (membersOfRaw? levels members).map fun members => object (lastMembers members)

def itemsOfRaw? (levels : Nat) : List Raw → Option (List Json)
  | [] => some []
  | item :: rest => do return (← ofRaw? levels item) :: (← itemsOfRaw? levels rest)

def membersOfRaw? (levels : Nat) : List (List Piece × Raw) → Option (List (String × Json))
  | [] => some []
  | (key, value) :: rest => do
    let key := String.ofList (← assemble? key)
    return (key, ← ofRaw? levels value) :: (← membersOfRaw? levels rest)

end

def ofText? (text : String) : Option Json := do ofRaw? maxLevels (← Raw.read? text)

end Json

end SubmissionGrader
