import SubmissionGrader.Files.Tree

/-!
# Access to files

`Disk m` is what a program may do with files; the actions belong to the monad `m`.
`Disk.inMemory` gives access to a tree that stands for the working directory.
-/

namespace SubmissionGrader

structure Disk (m : Type → Type) where
  kind? : String → m (Option FileKind)
  read : String → m (Except FileFault String)
  /-- All that is found at a path. -/
  tree? : String → m (Option FileTree)
  /-- Makes a directory and those above it, unless they are there. -/
  makeDirectory : String → m (Except FileFault Unit)
  write : String → String → m (Except FileFault Unit)

namespace FileTree

/-- Walks from a tree along the parts of a path. `above` holds the directories that were passed. -/
def walk : List FileTree → FileTree → List String → Except FileFault FileTree
  | _, tree, [] => .ok tree
  | above, tree, part :: rest =>
    match tree with
    | directory entries =>
      if part = "" ∨ part = "." then walk above tree rest
      else if part = ".." then
        match above with
        | parent :: above => walk above parent rest
        | [] => .error .missing
      else
        match child? part entries with
        | some child => walk (tree :: above) child rest
        | none => .error .missing
    | unlistable fault => .error fault
    | file _ | unreadable _ => .error .notDirectory

def lookup (root : FileTree) (path : String) : Except FileFault FileTree :=
  match (Text.splitOn '/' path.toList).map String.ofList with
  | [""] => .error .missing
  | "" :: _ => .error .missing
  | parts => walk [] root parts

/-- The entries with one entry put in the place of that with the same name, or at the end. -/
def putEntry (name : String) (tree : FileTree) (entries : List (String × FileTree)) :
    List (String × FileTree) :=
  if entries.any (·.1 == name) then
    entries.map fun entry => if entry.1 == name then (name, tree) else entry
  else entries ++ [(name, tree)]

/-- The tree after `change` was applied to what the parts of a path lead to. Where there is no
directory on the way, one is made if `makes` says so. -/
def changeAt (makes : Bool) (change : Option FileTree → Except FileFault FileTree) :
    List String → Option FileTree → Except FileFault FileTree
  | [], tree => change tree
  | part :: rest, none =>
    if makes then do return directory [(part, ← changeAt makes change rest none)]
    else .error .missing
  | part :: rest, some (directory entries) => do
    return directory (putEntry part (← changeAt makes change rest (child? part entries)) entries)
  | _, some (unlistable fault) => .error fault
  | _, some (file _) | _, some (unreadable _) => .error .notDirectory

/-- A directory where there was nothing, or the one that was there. -/
def madeDirectory : Option FileTree → Except FileFault FileTree
  | none => .ok (directory [])
  | some tree => if tree.kind = .directory then .ok tree else .error .exists

/-- A file with a content, if there was no directory. -/
def writtenFile (content : String) : Option FileTree → Except FileFault FileTree
  | none => .ok (file content)
  | some tree => if tree.kind = .directory then .error .isDirectory else .ok (file content)

end FileTree

namespace Disk

/-- Changes the tree, unless there is a fault. -/
def update (change : FileTree → Except FileFault FileTree) :
    StateM FileTree (Except FileFault Unit) := fun root =>
  match change root with
  | .ok root => (.ok (), root)
  | .error fault => (.error fault, root)

def inMemory : Disk (StateM FileTree) where
  kind? path := do return ((← get).lookup path).toOption.map FileTree.kind
  read path := do return (← get).lookup path >>= FileTree.read
  tree? path := do return ((← get).lookup path).toOption
  makeDirectory path :=
    update fun root =>
      FileTree.changeAt true FileTree.madeDirectory (Files.components path) (some root)
  write path content :=
    update fun root =>
      FileTree.changeAt false (FileTree.writtenFile content) (Files.components path) (some root)

end Disk

end SubmissionGrader
