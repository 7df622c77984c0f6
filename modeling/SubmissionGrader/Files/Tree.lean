import SubmissionGrader.Files.Path

/-!
# Trees of files

What is found at a path is a file or a directory, which holds more of them under distinct names, in
no particular order. Either may refuse to be read.
-/

namespace SubmissionGrader

inductive FileFault where
  | missing
  | notDirectory
  | isDirectory
  | exists
  /-- The content is no text in UTF-8. -/
  | notText
  | other (message : String)
  deriving DecidableEq, Repr

def FileFault.message : FileFault → String
  | missing => "No such file or directory (os error 2)"
  | notDirectory => "Not a directory (os error 20)"
  | isDirectory => "Is a directory (os error 21)"
  | «exists» => "File exists (os error 17)"
  | notText => "stream did not contain valid UTF-8"
  | other message => message

inductive FileTree where
  | file (content : String)
  | unreadable (fault : FileFault)
  | directory (entries : List (String × FileTree))
  | unlistable (fault : FileFault)
  deriving Repr

inductive FileKind where
  | file
  | directory
  deriving DecidableEq, Repr

namespace FileTree

def kind : FileTree → FileKind
  | file _ | unreadable _ => .file
  | directory _ | unlistable _ => .directory

def read : FileTree → Except FileFault String
  | file content => .ok content
  | unreadable fault => .error fault
  | directory _ | unlistable _ => .error .isDirectory

def child? (name : String) (entries : List (String × FileTree)) : Option FileTree :=
  (entries.find? (·.1 == name)).map Prod.snd

end FileTree

end SubmissionGrader
