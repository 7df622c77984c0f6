import SubmissionGrader.Number.Decimal
import SubmissionGrader.Toml.Lexical
import SubmissionGrader.Toml.Table

/-!
# TOML documents

A document is a sequence of pairs and headers. `Toml.read?` reads a document of version 1.0 of the
format into its table. Arrays and inline tables may be nested 79 levels deep, and a key may have 79
parts.
-/

namespace SubmissionGrader.Toml

/-- Nesting and keys stay below this number. -/
def depthLimit : Nat := 80

def simpleKey? (cs : List Char) : Option (String × List Char) :=
  match cs with
  | '\x22' :: rest => (basicText? cs.length rest).map fun (key, rest) => (String.ofList key, rest)
  | '\x27' :: rest => (literalText? rest).map fun (key, rest) => (String.ofList key, rest)
  | _ =>
    let key := cs.takeWhile isKeyChar
    if key.isEmpty then none else some (String.ofList key, cs.dropWhile isKeyChar)

/-- The parts of a key with points between them, and blank space around them. -/
def keyParts? : Nat → List Char → Option (List String × List Char)
  | 0, _ => none
  | fuel + 1, cs => do
    let (key, rest) ← simpleKey? (skipSpace cs)
    match skipSpace rest with
    | '.' :: rest => do
      let (keys, rest) ← keyParts? fuel rest
      return (key :: keys, rest)
    | rest => return ([key], rest)

def key? (cs : List Char) : Option (List String × List Char) := keyParts? (depthLimit - 1) cs

def integer? (negative : Bool) (n : Nat) : Option Value :=
  if negative then if n ≤ UInt64.size / 2 then some (.integer (-n)) else none
  else if n < UInt64.size / 2 then some (.integer n)
  else none

def basedInteger? (base : Nat) (cs : List Char) : Option (Value × List Char) := do
  let (digits, rest) ← digits? base cs
  return (← integer? false (digitsValue base digits), rest)

/-- A float; it must not be so large that it counts as infinite. -/
def float? (negative : Bool) (digits : List Char) : Option Value :=
  match Binary64.ofText? digits with
  | some (.finite _ _) => some (.float digits)
  | some (.infinite _) => if negative then some (.float digits) else none
  | _ => none

def decimalNumber? (cs : List Char) : Option (Value × List Char) := do
  let (negative, rest) := signed cs
  match word? "inf" rest, word? "nan" rest with
  | some rest, _ => return (.float "inf".toList, rest)
  | _, some rest => return (.float "nan".toList, rest)
  | _, _ => do
    let (whole, rest) ← whole? rest
    match floatTail? rest with
    | some (tail, rest) => return (← float? negative (whole ++ tail), rest)
    | none => return (← integer? negative (digitsValue 10 whole), rest)

def number? (cs : List Char) : Option (Value × List Char) :=
  match moment? cs with
  | some rest => some (.moment, rest)
  | none =>
    match cs with
    | '0' :: 'x' :: rest => basedInteger? 16 rest
    | '0' :: 'o' :: rest => basedInteger? 8 rest
    | '0' :: 'b' :: rest => basedInteger? 2 rest
    | _ => decimalNumber? cs

/-- A value that is no array and no inline table. -/
def scalar? (cs : List Char) : Option (Value × List Char) :=
  match cs with
  | [] => none
  | c :: _ =>
    if c == '\x22' || c == '\x27' then
      (string? cs).map fun (text, rest) => (.text (String.ofList text), rest)
    else
      match word? "true" cs, word? "false" cs with
      | some rest, _ => some (.boolean true, rest)
      | _, some rest => some (.boolean false, rest)
      | _, _ => number? cs

mutual

/-- A value. The fuel bounds nesting and the number of items together; `levels` bounds nesting. -/
def value? : Nat → Nat → List Char → Option (Value × List Char)
  | 0, _, _ => none
  | fuel + 1, levels, cs =>
    match cs, levels with
    | '[' :: _, 0 => none
    | '\x7b' :: _, 0 => none
    | '[' :: rest, levels + 1 =>
      (items? fuel levels rest).map fun (items, rest) => (.array items, rest)
    | '\x7b' :: rest, levels + 1 => do
      let (members, rest) ←
        match skipSpace rest with
        | '\x7d' :: rest => some ([], rest)
        | _ => pairs? fuel levels [] rest
      return (.table (membersToValues members), rest)
    | _, _ => scalar? cs

/-- The items of an array up to its end. A comma may follow the last one. -/
def items? : Nat → Nat → List Char → Option (List Value × List Char)
  | 0, _, _ => none
  | fuel + 1, levels, cs => do
    match ← skipLines? cs.length cs with
    | ']' :: rest => return ([], rest)
    | cs => do
      let (item, rest) ← value? fuel levels cs
      match ← skipLines? rest.length rest with
      | ',' :: rest => do
        let (items, rest) ← items? fuel levels rest
        return (item :: items, rest)
      | ']' :: rest => return ([item], rest)
      | _ => none

/-- The pairs of an inline table up to its end, behind those that were read. -/
def pairs? : Nat → Nat → Members → List Char → Option (Members × List Char)
  | 0, _, _, _ => none
  | fuel + 1, levels, members, cs => do
    let (path, rest) ← key? cs
    let rest ← word? "=" rest
    let (value, rest) ← value? fuel levels (skipSpace rest)
    let members ← addPair path value .opened members
    match skipSpace rest with
    | ',' :: rest => pairs? fuel levels members rest
    | '\x7d' :: rest => return (members, rest)
    | _ => none

end

inductive Statement where
  | pair (path : List String) (value : Value)
  | header (path : List String)
  /-- The header of one of several tables. -/
  | itemHeader (path : List String)

/-- A document so far: its table, and the path of the header that was read last. -/
structure Draft where
  root : Members := []
  current : List String := []

def Draft.add (d : Draft) : Statement → Option Draft
  | .pair path value => do
    return { d with root := ← changeAt false (addPair path value) d.current .opened d.root }
  | .header path => do
    let root ← changeAt false (openTable (← path.getLast?)) path.dropLast .opened d.root
    return { root, current := path }
  | .itemHeader path => do
    let root ← changeAt false (openItem (← path.getLast?)) path.dropLast .opened d.root
    return { root, current := path }

def statement? (cs : List Char) : Option (Statement × List Char) :=
  match cs with
  | '[' :: '[' :: rest => do
    let (path, rest) ← key? rest
    return (.itemHeader path, ← lineRest? (← word? "]]" rest))
  | '[' :: rest => do
    let (path, rest) ← key? rest
    return (.header path, ← lineRest? (← word? "]" rest))
  | _ => do
    let (path, rest) ← key? cs
    let rest ← word? "=" rest
    let (value, rest) ← value? (cs.length + 1) (depthLimit - 1) (skipSpace rest)
    return (.pair path value, ← lineRest? rest)

def statements? : Nat → Draft → List Char → Option Draft
  | 0, _, _ => none
  | fuel + 1, d, cs =>
    match skipSpace cs with
    | [] => some d
    | c :: rest =>
      if c == '#' || c == '\n' || c == '\r' then do
        statements? fuel d (← lineRest? (c :: rest))
      else do
        let (statement, rest) ← statement? (c :: rest)
        statements? fuel (← d.add statement) rest

/-- The table that a text denotes. A byte order mark in front is passed over. -/
def read? (text : String) : Option Value := do
  let cs := text.toList
  let cs := if cs.head? = some '\ufeff' then cs.drop 1 else cs
  let d ← statements? (cs.length + 1) {} cs
  return (Node.table .opened d.root).toValue

end SubmissionGrader.Toml
