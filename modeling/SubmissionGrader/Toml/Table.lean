/-!
# TOML values and tables under construction

`Value` is what a TOML text denotes. While a document is read, its tables grow: `changeAt` goes
along a path of keys, makes tables that are not there yet, and refuses what TOML refuses, so that no
key is given twice and no table is opened twice.
-/

namespace SubmissionGrader.Toml

/-- A TOML value. Of dates and times only their presence is kept. -/
inductive Value where
  | text (value : String)
  | integer (value : Int)
  | float (digits : List Char)
  | boolean (value : Bool)
  | moment
  | array (items : List Value)
  | table (members : List (String × Value))
  deriving Repr

/-- How a table came to be, which decides what may be added to it. -/
inductive Origin where
  /-- It was opened by a header, or it is a table of its own. -/
  | opened
  /-- A header of another table named it on its way. -/
  | passed
  /-- A key with dots named it. -/
  | dotted
  deriving DecidableEq, Repr

/-- A value, or a table that may still grow, or several tables under one key. -/
inductive Node where
  | value (v : Value)
  | table (origin : Origin) (members : List (String × Node))
  | tables (items : List (List (String × Node)))

abbrev Members := List (String × Node)

def find? (key : String) (members : Members) : Option Node :=
  (members.find? (·.1 == key)).map Prod.snd

def replace (key : String) (node : Node) (members : Members) : Members :=
  members.map fun member => if member.1 == key then (key, node) else member

/-- Changes the table at the end of a path. Of several tables under a key the last one is meant.
With `dotted`, the path belongs to a key and must not lead into opened tables. -/
def changeAt (dotted : Bool) (change : Origin → Members → Option Members) :
    List String → Origin → Members → Option Members
  | [], origin, members => change origin members
  | key :: rest, _, members =>
    match find? key members with
    | none => do
      let origin : Origin := if dotted then .dotted else .passed
      let child ← changeAt dotted change rest origin []
      return members ++ [(key, .table origin child)]
    | some (.table origin child) =>
      if dotted && origin == .opened then none
      else do
        let child ← changeAt dotted change rest origin child
        return replace key (.table origin child) members
    | some (.tables items) => do
      let last ← changeAt dotted change rest .opened (← items.getLast?)
      return replace key (.tables (items.dropLast ++ [last])) members
    | some (.value _) => none

/-- Adds a value to a table. At the end of a dotted path there has to be a dotted table, and only
there. -/
def addValue (afterDots : Bool) (key : String) (value : Value) (origin : Origin)
    (members : Members) : Option Members :=
  if (origin == .dotted) != afterDots then none
  else
    match find? key members with
    | none => some (members ++ [(key, .value value)])
    | some _ => none

def addPair (path : List String) (value : Value) (origin : Origin) (members : Members) :
    Option Members := do
  let above := path.dropLast
  changeAt true (addValue (!above.isEmpty) (← path.getLast?) value) above origin members

/-- Opens a table that is not there yet, or that was only passed. -/
def openTable (key : String) (_ : Origin) (members : Members) : Option Members :=
  match find? key members with
  | none => some (members ++ [(key, .table .opened [])])
  | some (.table .passed child) => some (replace key (.table .opened child) members)
  | some _ => none

def openItem (key : String) (_ : Origin) (members : Members) : Option Members :=
  match find? key members with
  | none => some (members ++ [(key, .tables [[]])])
  | some (.tables items) => some (replace key (.tables (items ++ [[]])) members)
  | some _ => none

mutual

/-- The value that a node has when nothing is added any more. -/
def Node.toValue : Node → Value
  | .value v => v
  | .table _ members => .table (membersToValues members)
  | .tables items => .array (tablesToValues items)

def membersToValues : List (String × Node) → List (String × Value)
  | [] => []
  | (key, node) :: rest => (key, node.toValue) :: membersToValues rest

def tablesToValues : List (List (String × Node)) → List Value
  | [] => []
  | members :: rest => .table (membersToValues members) :: tablesToValues rest

end

end SubmissionGrader.Toml
