import SubmissionGrader.Json.Raw

/-!
# Records in JSON

A record is written as an object, whose members may stand in any order among members that nobody
knows, or as an array of its fields in order. A field is given at most once.
-/

namespace SubmissionGrader.Json

/-- What is made of items behind the last field of a record that is written as an array. -/
inductive Surplus where
  | refused
  | ignored
  deriving DecidableEq, Repr

namespace Raw

/-- The texts that the keys of members denote, with the values. -/
def keyed? (members : List (List Piece × Raw)) : Option (List (String × Raw)) :=
  members.mapM fun (key, value) => (assemble? key).map fun cs => (String.ofList cs, value)

/-- The value of a field among members, if it is not given twice. A field may have several
spellings. -/
def field? (members : List (String × Raw)) (spellings : List String) : Option (Option Raw) :=
  match members.filter fun member => spellings.contains member.1 with
  | [] => some none
  | [member] => some (some member.2)
  | _ => none

/-- The values of the fields of a record, where each field has a list of spellings. -/
def fields? (surplus : Surplus) (fields : List (List String)) : Raw → Option (List (Option Raw))
  | object members => do
    let members ← keyed? members
    fields.mapM (field? members)
  | array items =>
    if items.length ≤ fields.length then
      some (items.map some ++ List.replicate (fields.length - items.length) none)
    else
      match surplus with
      | .refused => none
      | .ignored => some ((items.take fields.length).map some)
  | _ => none

end Raw

/-- Decodes the fields of a record one after the other. -/
abbrev Fields := StateT (List (Option Raw)) Option

namespace Fields

/-- The next field, or a default if it is not given. -/
def withDefault {α : Type} (default : α) (decode? : Raw → Option α) : Fields α := fun fields =>
  match fields with
  | some value :: rest => (decode? value).map (·, rest)
  | none :: rest => some (default, rest)
  | [] => none

def required {α : Type} (decode? : Raw → Option α) : Fields α := fun fields =>
  match fields with
  | some value :: rest => (decode? value).map (·, rest)
  | _ => none

/-- The next field, which may be missing or `null`. -/
def optional {α : Type} (decode? : Raw → Option α) : Fields (Option α) :=
  withDefault none (Raw.orNull? decode?)

def run? {α : Type} (surplus : Surplus) (names : List (List String)) (fields : Fields α)
    (raw : Raw) : Option α := do
  let values ← raw.fields? surplus names
  return (← fields.run values).1

end Fields

end SubmissionGrader.Json
