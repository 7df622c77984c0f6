/-!
# Interpolation of variables

In a text, `${NAME}` stands for the value of a variable. The text is read once from left to right: a
value is copied as it is, and what begins like a reference but does not end is copied too.
-/

namespace SubmissionGrader

/-- The values of variables. A variable without a value is not set. -/
abbrev Environment := String → Option String

namespace Environment

/-- The value of a variable; an unset variable counts as empty. -/
def value (env : Environment) (name : List Char) : List Char :=
  ((env (String.ofList name)).getD "").toList

/-- Reads a text outside of a reference, or inside of one whose name so far is given in reverse. -/
def scan (env : Environment) : Option (List Char) → List Char → List Char
  | none, [] => []
  | some name, [] => '$' :: '\x7b' :: name.reverse
  | none, '$' :: '\x7b' :: rest => scan env (some []) rest
  | none, c :: rest => c :: scan env none rest
  | some name, c :: rest =>
    if c = '\x7d' then env.value name.reverse ++ scan env none rest
    else scan env (some (c :: name)) rest

def names : Option (List Char) → List Char → List String
  | _, [] => []
  | none, '$' :: '\x7b' :: rest => names (some []) rest
  | none, _ :: rest => names none rest
  | some name, c :: rest =>
    if c = '\x7d' then String.ofList name.reverse :: names none rest
    else names (some (c :: name)) rest

/-- The environment in which only the given variables have values. -/
def ofList (values : List (String × Option String)) : Environment := fun name =>
  (values.find? (·.1 == name)).bind Prod.snd

def interpolate (env : Environment) (text : String) : String :=
  String.ofList (scan env none text.toList)

end Environment

end SubmissionGrader
