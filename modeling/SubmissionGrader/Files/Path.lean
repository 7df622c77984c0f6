import SubmissionGrader.Text.Search

/-!
# Paths

A path is a text whose components stand between slashes.
-/

namespace SubmissionGrader.Files

/-- The components of a path: what stands between slashes, without empty ones and points alone. -/
def components (path : String) : List String :=
  ((Text.splitOn '/' path.toList).map String.ofList).filter fun part => part ≠ "" && part ≠ "."

def fileName? (path : String) : Option String :=
  match (components path).getLast? with
  | some ".." | none => none
  | some name => some name

/-- What stands behind the last point of a name, unless the name begins with that point. -/
def extensionOf? (name : String) : Option String :=
  match (Text.splitOn '.' name.toList).reverse with
  | [] | [_] => none
  | [_, []] => none
  | last :: _ => some (String.ofList last)

def extension? (path : String) : Option String := (fileName? path).bind extensionOf?

def join (directory name : String) : String :=
  if directory.isEmpty || directory.toList.getLast? == some '/' then directory ++ name
  else directory ++ "/" ++ name

end SubmissionGrader.Files
