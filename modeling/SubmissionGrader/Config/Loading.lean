import SubmissionGrader.Config.Decoding
import SubmissionGrader.Config.Overrides
import SubmissionGrader.Files.Disk

/-!
# Loading a configuration

A configuration is read from a file that is named, else from the working directory, else from the
home directory. Without any file it has its defaults. Overrides come last. Files and variables are
looked up in a monad `m`.
-/

namespace SubmissionGrader

inductive ConfigError where
  | notFound (path : String)
  | unreadable (path : String) (fault : FileFault)
  | malformed (path : String)
  | badOverride (error : OverrideError)
  deriving DecidableEq, Repr

namespace ConfigError

def message : ConfigError → String
  | notFound path => "config file not found: " ++ path
  | unreadable path _ => "failed to read config: " ++ path
  | malformed path => "failed to parse config: " ++ path
  | badOverride error => error.message

def cause? : ConfigError → Option String
  | unreadable _ fault => some fault.message
  | badOverride error => some error.fault.message
  | notFound _ | malformed _ => none

end ConfigError

namespace GraderConfig

def localPath : String := "jsxgrade.toml"

def homePath (home : String) : String :=
  Files.join (Files.join (Files.join home ".config") "jsxgrade") "config.toml"

variable {m : Type → Type} [Monad m]

/-- The environment as far as some variables are concerned. -/
def environment (lookup : String → m (Option String)) (names : List String) : m Environment := do
  return .ofList (← names.mapM fun name => do return (name, ← lookup name))

def isThere (disk : Disk m) (path : String) : m Bool := do return (← disk.kind? path).isSome

/-- The path of the configuration file to read, if there is one. -/
def search (disk : Disk m) (lookup : String → m (Option String)) :
    Option String → m (Except ConfigError (Option String))
  | some path => do
    if ← isThere disk path then return .ok (some path) else return .error (.notFound path)
  | none => do
    if ← isThere disk localPath then return .ok (some localPath)
    else
      match ← lookup "HOME" with
      | none => return .ok none
      | some home =>
        let path := homePath home
        if ← isThere disk path then return .ok (some path) else return .ok none

def readFile (disk : Disk m) (lookup : String → m (Option String)) (path : String) :
    m (Except ConfigError GraderConfig) := do
  match ← disk.read path with
  | .error fault => return .error (.unreadable path fault)
  | .ok content =>
    match written? content with
    | none => return .error (.malformed path)
    | some config =>
      let env ← environment lookup (Environment.names none config.suiteDir.toList)
      return .ok (config.interpolated env)

/-- The configuration with the overrides, if there is no error among them. -/
def overridden (env : Environment) (c : GraderConfig) : Except ConfigError GraderConfig :=
  match c.applyOverrides env with
  | (c, none) => .ok c
  | (_, some error) => .error (.badOverride error)

/-- The configuration that is in force, read from the file at a path if one is given. -/
def load (disk : Disk m) (lookup : String → m (Option String)) (path : Option String) :
    m (Except ConfigError GraderConfig) := do
  match ← search disk lookup path with
  | .error error => return .error error
  | .ok path? =>
    let config ←
      match path? with
      | none => pure (.ok {})
      | some path => readFile disk lookup path
    let env ← environment lookup [capacityVariable, depthVariable]
    return config >>= overridden env

end GraderConfig

end SubmissionGrader
