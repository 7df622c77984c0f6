import SubmissionGrader.CommandLine.Help
import SubmissionGrader.CommandLine.Starter
import SubmissionGrader.Config.Loading
import SubmissionGrader.Grading.Grader
import SubmissionGrader.Report.Basic
import SubmissionGrader.Service.LineServer
import SubmissionGrader.Suite.Directory
import SubmissionGrader.Suite.Review

/-!
# Sessions on the command line

A session runs one command. It reads and writes files through a `Disk`, collects what is to be
printed, and ends with an exit code. The first failure ends it.
-/

namespace SubmissionGrader.CommandLine

/-- What a session leaves to print, and how it ends. -/
structure Outcome where
  exitCode : Nat := 0
  output : String := ""
  messages : String := ""
  deriving DecidableEq, Repr

inductive Failure where
  | unknownFormat (format : String)
  | config (error : ConfigError)
  | suite (error : SuiteError)
  | source (path : String) (fault : FileFault)
  | file (fault : FileFault)
  /-- Not all cases passed, which was reported already. -/
  | notAllPassed
  deriving DecidableEq, Repr

def withCause (message : String) : Option String → String
  | some cause => message ++ ": " ++ cause
  | none => message

/-- The failure in words, if it has to be told. -/
def Failure.message? : Failure → Option String
  | unknownFormat format => some ("unknown format: " ++ format ++ " (expected text or json)")
  | config error => some (withCause error.message error.cause?)
  | suite error => some (withCause error.message error.cause?)
  | source path fault => some (withCause ("failed to read source file: " ++ path) fault.message)
  | file fault => some fault.message
  | notAllPassed => none

/-- Where a session takes place: files, variables, the time and what is typed. -/
structure Place (m : Type → Type) where
  disk : Disk m
  lookup : String → m (Option String)
  now : m String
  input : m String
  /-- What is said of a text that is no JSON, if anything is. -/
  explain : String → Option String := fun _ => none

abbrev Session (m : Type → Type) := ExceptT Failure (StateT Outcome m)

namespace Session

variable {m : Type → Type} [Monad m]

def say (line : String) : Session m Unit :=
  modify fun o => { o with output := o.output ++ line ++ "\n" }

def note (line : String) : Session m Unit :=
  modify fun o => { o with messages := o.messages ++ line ++ "\n" }

def orFail {α ε : Type} (failure : ε → Failure) (action : m (Except ε α)) : Session m α := do
  match ← (action : m (Except ε α)) with
  | .ok value => return value
  | .error error => throw (failure error)

def config (place : Place m) (path : Option String) : Session m GraderConfig :=
  orFail .config (GraderConfig.load place.disk place.lookup path)

def source (place : Place m) (path : String) : Session m String :=
  orFail (.source path) (place.disk.read path)

def suite (place : Place m) (path : String) : Session m Suite :=
  orFail .suite do return Suite.ofFile path (← place.disk.read path)

/-- The messages about each case and about all of them. -/
def console : Reporter (List String) where
  onCase index result lines :=
    lines ++
      ["  [" ++ toString (index + 1) ++ "] " ++ Report.resultName result ++ " " ++ result.description]
  onSuite results lines := lines ++ ["", "Complete: " ++ (Metrics.ofResults results).text]

def check (place : Place m) (code suitePath format : String) (configPath : Option String) :
    Session m Unit := do
  unless format = "text" ∨ format = "json" do throw (.unknownFormat format)
  let config ← config place configPath
  let suite ← suite place suitePath
  let source ← source place code
  let cache := config.newCache?
  let results ←
    if format = "json" then
      let results := (Grader.runAll config cache source suite.cases).1
      say (Report.grading suite.id (← place.now) results).pretty
      pure results
    else do
      note ("Suite: " ++ suite.name ++ " (" ++ toString suite.cases.length ++ " cases)")
      let (results, _, lines) := Grader.runAllWith config console [] cache source suite.cases
      lines.forM note
      (Report.table results).lines.forM say
      say ("\n" ++ (Metrics.ofResults results).text)
      pure results
  unless allPassed results do throw .notAllPassed

def analyze (place : Place m) (code : String) : Session m Unit := do
  let config ← config place none
  let source ← source place code
  say (Report.analysis config source).pretty

def warningLine (w : SuiteWarning) : String :=
  match w.case with
  | some index => "  [#" ++ toString (index + 1) ++ "] WARNING: " ++ w.flaw.message
  | none => "  WARNING: " ++ w.flaw.message

def validate (place : Place m) (suitePath configPath : Option String) : Session m Unit := do
  let path ←
    match suitePath with
    | some path => pure path
    | none => GraderConfig.suiteDir <$> config place configPath
  let suites ←
    if (← place.disk.kind? path) = some .directory then
      orFail .suite do return Suite.loadDirectory path (← place.disk.tree? path)
    else (fun suite => [suite]) <$> suite place path
  for suite in suites do
    say ("Suite: " ++ suite.name ++ " (" ++ toString suite.cases.length ++ " cases)")
    for warning in suite.review do
      say (warningLine warning)
  let count := suites.foldl (fun n suite => n + suite.review.length) 0
  if count = 0 then say "\nAll suites valid."
  else say ("\n" ++ toString count ++ " warning(s) found.")

def hostConfig (place : Place m) (configPath : Option String) : Session m HostConfig := do
  return { maxNestingDepth := (← config place configPath).maxNestingDepth }

def serve (place : Place m) (configPath : Option String) : Session m Unit := do
  let host ← hostConfig place configPath
  for response in (LineServer.run host (← place.input) place.explain).written do
    say response.toJson.compact

/-- Writes a file, unless there is one. -/
def create (place : Place m) (path content : String) : Session m Unit := do
  if (← place.disk.kind? path).isSome then say (path ++ " already exists, skipping.")
  else do
    orFail .file (place.disk.write path content)
    say ("Created " ++ path)

def init (place : Place m) : Session m Unit := do
  create place GraderConfig.localPath starterConfig
  orFail .file (place.disk.makeDirectory "suites")
  create place "suites/example.toml" starterSuite
  say "\nNext steps:"
  say "  1. Run: jsxgrade validate --suite suites/example.toml"
  say "  2. Run: jsxgrade check --code App.jsx --suite suites/example.toml"

def perform (place : Place m) : Invocation → Session m Unit
  | .check code suite format config => check place code suite format config
  | .analyze code => analyze place code
  | .validate suite config => validate place suite config
  | .serve config => serve place config
  | .init => init place
  | .help command => modify fun o => { o with output := o.output ++ helpText command }
  | .version => modify fun o => { o with output := o.output ++ versionText }

/-- What is left after a session. A failure is told at the end of the messages. -/
def outcome (session : Session m Unit) : m Outcome := do
  match ← (session.run.run {} : m (Except Failure Unit × Outcome)) with
  | (.ok _, o) => return o
  | (.error failure, o) =>
    return { o with
      exitCode := 1
      messages :=
        match failure.message? with
        | some message => o.messages ++ "Error: " ++ message ++ "\n"
        | none => o.messages }

end Session

def run {m : Type → Type} [Monad m] (place : Place m) (arguments : List String) : m Outcome :=
  match parse arguments with
  | .ok invocation => (Session.perform place invocation).outcome
  | .error error => pure { exitCode := 2, messages := usageText error }

end SubmissionGrader.CommandLine
