import Std.Time.DateTime.Timestamp
import SubmissionGrader.CommandLine.Session
import SubmissionGrader.Report.Moment

/-!
# The program

The outer layer of the command line: files, variables, the clock and the standard streams. What the
program does is decided by `CommandLine.run`; only the server is run here line by line, so that each
request is answered when it comes.
-/

namespace SubmissionGrader.Main

def faultOf : IO.Error → FileFault
  | .noFileOrDirectory _ _ _ => .missing
  | .alreadyExists _ _ _ => .exists
  | .inappropriateType _ _ "not a directory" => .notDirectory
  | error => .other (toString error)

def attempt {α : Type} (action : IO α) : IO (Except FileFault α) := do
  try return .ok (← action)
  catch error => return .error (faultOf error)

/-- Whether a path leads to a directory or to something else; nothing if it leads nowhere. -/
def kind? (path : String) : IO (Option FileKind) := do
  match ← attempt (IO.FS.realPath path) with
  | .error _ => return none
  | .ok place => return some (if ← place.isDir then .directory else .file)

def read (path : String) : IO (Except FileFault String) := do
  if (← kind? path) = some .directory then return .error .isDirectory
  match ← attempt (IO.FS.readBinFile path) with
  | .error fault => return .error fault
  | .ok bytes =>
    match String.fromUTF8? bytes with
    | some text => return .ok text
    | none => return .error .notText

/-- All suites at a path. Files that hold no suite are not opened. -/
partial def tree (path : String) : IO FileTree := do
  if (← kind? path) = some .directory then
    match ← attempt ((← IO.FS.realPath path).readDir) with
    | .error fault => return .unlistable fault
    | .ok found =>
      let entries ← found.toList.mapM fun e => do
        return (e.fileName, ← tree (Files.join path e.fileName))
      return .directory entries
  else if Suite.isSuitePath path then
    match ← read path with
    | .ok text => return .file text
    | .error fault => return .unreadable fault
  else return .unreadable .notText

def tree? (path : String) : IO (Option FileTree) := do
  if (← kind? path).isSome then return some (← tree path) else return none

def disk : Disk IO where
  kind? := kind?
  read := read
  tree? := tree?
  makeDirectory path := do
    if (← kind? path) = some .file then return .error .exists
    attempt (IO.FS.createDirAll path)
  write path content := attempt (IO.FS.writeFile path content)

def now : IO String := do
  let moment ← Std.Time.Timestamp.now
  return Moment.text moment.toNanosecondsSinceUnixEpoch.val.toNat

partial def readAll (stream : IO.FS.Stream) (before : String) : IO String := do
  let line ← stream.getLine
  if line.isEmpty then return before else readAll stream (before ++ line)

def place : CommandLine.Place IO where
  disk := disk
  lookup name := IO.getEnv name
  now := now
  input := do readAll (← IO.getStdin) ""

partial def answerLines (config : HostConfig) (input output : IO.FS.Stream) : IO Unit := do
  let line ← input.getLine
  if line.isEmpty then return
  for response in (LineServer.run config line place.explain).written do
    output.putStr response.line
  output.flush
  answerLines config input output

def finish (outcome : CommandLine.Outcome) : IO UInt32 := do
  (← IO.getStdout).putStr outcome.output
  (← IO.getStderr).putStr outcome.messages
  return UInt32.ofNat outcome.exitCode

/-- A session that answers requests as they come. -/
def serve (configPath : Option String) : CommandLine.Session IO Unit := do
  let config ← CommandLine.Session.hostConfig place configPath
  answerLines config (← IO.getStdin) (← IO.getStdout)

def run (arguments : List String) : IO UInt32 := do
  match CommandLine.parse arguments with
  | .ok (.serve config) => finish (← (serve config).outcome)
  | _ => finish (← CommandLine.run place arguments)

end SubmissionGrader.Main

def main (arguments : List String) : IO UInt32 := SubmissionGrader.Main.run arguments
