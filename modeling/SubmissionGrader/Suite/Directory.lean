import SubmissionGrader.Suite.Basic

/-!
# Directories of suites

A directory holds suites in files and in more directories. They are loaded in the order of their
names; a file that holds no suite is passed over.
-/

namespace SubmissionGrader.Suite

def isSuitePath (path : String) : Bool :=
  Files.extension? path == some "toml" || Files.extension? path == some "json"

/-- The entries of a directory in the order of their names. -/
def byName {α : Type} (entries : List (String × α)) : List (String × α) :=
  entries.mergeSort fun a b => decide (a.1 ≤ b.1)

/-- All lists one behind the other, or the first error. -/
def gather : List (Except SuiteError (List Suite)) → Except SuiteError (List Suite)
  | [] => .ok []
  | found :: rest => do return (← found) ++ (← gather rest)

mutual

def allOf (path : String) : FileTree → Except SuiteError (List Suite)
  | .file content =>
    if isSuitePath path then
      match parse path content with
      | .ok suite => .ok [suite]
      | .error _ => .ok []
    else .ok []
  | .unreadable _ => .ok []
  | .directory entries => gather ((byName (allOfEntries path entries)).map Prod.snd)
  | .unlistable fault => .error (.unlistable path fault)

def allOfEntries (path : String) :
    List (String × FileTree) → List (String × Except SuiteError (List Suite))
  | [] => []
  | (name, tree) :: rest => (name, allOf (Files.join path name) tree) :: allOfEntries path rest

end

def loadDirectory (path : String) (tree : Option FileTree) : Except SuiteError (List Suite) :=
  match tree with
  | some tree => if tree.kind = .directory then allOf path tree else .error (.notDirectory path)
  | none => .error (.notDirectory path)

end SubmissionGrader.Suite
