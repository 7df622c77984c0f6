import SubmissionGrader.Json.Quoted

/-!
# JSON as it is written

`Raw` is the structure of a JSON text. Its strings are kept in pieces and its numbers as they are
written, so that a member nobody asks for need not denote anything. `Raw.read?` reads a whole text;
there is no limit on nesting.
-/

namespace SubmissionGrader.Json

/-- A JSON text as it is written. -/
inductive Raw where
  | null
  | boolean (value : Bool)
  | number (digits : List Char)
  | string (pieces : List Piece)
  | array (items : List Raw)
  | object (members : List (List Piece × Raw))
  deriving Repr

def isSpace (c : Char) : Bool := c == ' ' || c == '\n' || c == '\t' || c == '\r'

def skipSpace (cs : List Char) : List Char := cs.dropWhile isSpace

def digits? (cs : List Char) : Option (List Char × List Char) :=
  let digits := cs.takeWhile Char.isDigit
  if digits.isEmpty then none else some (digits, cs.dropWhile Char.isDigit)

/-- The digits in front of the point: a zero stands alone. -/
def wholePart? : List Char → Option (List Char × List Char)
  | '0' :: rest => if rest.head?.any Char.isDigit then none else some (['0'], rest)
  | cs => digits? cs

def fractionPart? : List Char → Option (List Char × List Char)
  | '.' :: rest => (digits? rest).map fun (digits, behind) => ('.' :: digits, behind)
  | cs => some ([], cs)

def exponentPart? : List Char → Option (List Char × List Char)
  | [] => some ([], [])
  | e :: rest =>
    if e == 'e' || e == 'E' then
      match rest with
      | '+' :: rest => (digits? rest).map fun (digits, behind) => (e :: '+' :: digits, behind)
      | '-' :: rest => (digits? rest).map fun (digits, behind) => (e :: '-' :: digits, behind)
      | _ => (digits? rest).map fun (digits, behind) => (e :: digits, behind)
    else some ([], e :: rest)

def unsignedNumber? (cs : List Char) : Option (List Char × List Char) := do
  let (whole, rest) ← wholePart? cs
  let (fraction, rest) ← fractionPart? rest
  let (exponent, rest) ← exponentPart? rest
  return (whole ++ fraction ++ exponent, rest)

def number? : List Char → Option (List Char × List Char)
  | '-' :: rest => (unsignedNumber? rest).map fun (digits, behind) => ('-' :: digits, behind)
  | cs => unsignedNumber? cs

def word? (word : String) (cs : List Char) : Option (List Char) :=
  if word.toList.isPrefixOf cs then some (cs.drop word.length) else none

namespace Raw

mutual

/-- A value behind white space. The fuel bounds nesting and the number of items together. -/
def value? : Nat → List Char → Option (Raw × List Char)
  | 0, _ => none
  | fuel + 1, cs =>
    match skipSpace cs with
    | 'n' :: rest => (word? "ull" rest).map (null, ·)
    | 't' :: rest => (word? "rue" rest).map (boolean true, ·)
    | 'f' :: rest => (word? "alse" rest).map (boolean false, ·)
    | '\x22' :: rest => (readPieces rest).map fun (pieces, behind) => (string pieces, behind)
    | '[' :: rest =>
      match skipSpace rest with
      | ']' :: behind => some (array [], behind)
      | _ => (items? fuel rest).map fun (items, behind) => (array items, behind)
    | '\x7b' :: rest =>
      match skipSpace rest with
      | '\x7d' :: behind => some (object [], behind)
      | _ => (members? fuel rest).map fun (members, behind) => (object members, behind)
    | rest => (number? rest).map fun (digits, behind) => (number digits, behind)

def items? : Nat → List Char → Option (List Raw × List Char)
  | 0, _ => none
  | fuel + 1, cs => do
    let (item, rest) ← value? fuel cs
    match skipSpace rest with
    | ',' :: rest => do
      let (items, behind) ← items? fuel rest
      return (item :: items, behind)
    | ']' :: behind => return ([item], behind)
    | _ => none

def members? : Nat → List Char → Option (List (List Piece × Raw) × List Char)
  | 0, _ => none
  | fuel + 1, cs => do
    let rest ← word? "\"" (skipSpace cs)
    let (key, rest) ← readPieces rest
    let rest ← word? ":" (skipSpace rest)
    let (value, rest) ← value? fuel rest
    match skipSpace rest with
    | ',' :: rest => do
      let (members, behind) ← members? fuel rest
      return ((key, value) :: members, behind)
    | '\x7d' :: behind => return ([(key, value)], behind)
    | _ => none

end

def read? (text : String) : Option Raw :=
  match value? (text.length + 1) text.toList with
  | some (value, rest) => if (skipSpace rest).isEmpty then some value else none
  | none => none

def text? : Raw → Option String
  | string pieces => (assemble? pieces).map String.ofList
  | _ => none

def boolean? : Raw → Option Bool
  | boolean value => some value
  | _ => none

/-- The natural number that is written in digits alone, if it is at most `limit`. -/
def natural? (limit : Nat) : Raw → Option Nat
  | number digits =>
    if digits.all Char.isDigit then
      let n := digits.foldl (fun n c => 10 * n + (c.toNat - '0'.toNat)) 0
      if n ≤ limit then some n else none
    else none
  | _ => none

def listOf? {α : Type} (decode? : Raw → Option α) : Raw → Option (List α)
  | array items => items.mapM decode?
  | _ => none

/-- Nothing for `null`, else what is decoded. -/
def orNull? {α : Type} (decode? : Raw → Option α) : Raw → Option (Option α)
  | null => some none
  | value => (decode? value).map some

end Raw

end SubmissionGrader.Json
