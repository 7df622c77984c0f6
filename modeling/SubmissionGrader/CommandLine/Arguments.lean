/-!
# Arguments of the command line

The first argument names a command, and the others are options of the command, each with a value. An
option is given at most once. Help and the version can be asked for anywhere.
-/

namespace SubmissionGrader.CommandLine

inductive CommandName where
  | check
  | analyze
  | validate
  | serve
  | init
  deriving DecidableEq, Repr

namespace CommandName

def text : CommandName → String
  | check => "check"
  | analyze => "analyze"
  | validate => "validate"
  | serve => "serve"
  | init => "init"

def all : List CommandName := [check, analyze, validate, serve, init]

def ofText? (name : String) : Option CommandName := all.find? (·.text == name)

def options : CommandName → List String
  | check => ["code", "suite", "format", "config"]
  | analyze => ["code"]
  | validate => ["suite", "config"]
  | serve => ["config"]
  | init => []

end CommandName

inductive UsageError where
  | noCommand
  | unknownCommand (name : String)
  | unexpected (argument : String)
  | noValue (option : String)
  | repeated (option : String)
  | missing (option : String)
  deriving DecidableEq, Repr

def UsageError.message : UsageError → String
  | noCommand => "a command is required"
  | unknownCommand name => "unrecognized subcommand: " ++ name
  | unexpected argument => "unexpected argument: " ++ argument
  | noValue option => "a value is required for --" ++ option
  | repeated option => "an argument cannot be used multiple times: --" ++ option
  | missing option => "a required argument was not provided: --" ++ option

inductive Invocation where
  | check (code suite format : String) (config : Option String)
  | analyze (code : String)
  | validate (suite config : Option String)
  | serve (config : Option String)
  | init
  | help (command : Option CommandName)
  | version
  deriving DecidableEq, Repr

def dropStart? (start : String) (text : String) : Option String :=
  if start.toList.isPrefixOf text.toList then some (String.ofList (text.toList.drop start.length))
  else none

/-- Whether an argument looks like an option and cannot be the value of one. -/
def looksLikeOption (argument : String) : Bool :=
  (dropStart? "-" argument).isSome && argument != "-"

/-- A text up to its first equals sign, and what stands behind the sign. -/
def splitValue (text : String) : String × Option String :=
  let cs := text.toList
  match cs.dropWhile (· != '=') with
  | _ :: value => (String.ofList (cs.takeWhile (· != '=')), some (String.ofList value))
  | [] => (text, none)

/-- What the options of a command turn out to be: values, or a call for help. -/
inductive Options where
  | values (values : List (String × String))
  | help

/-- Adds a value to those that follow. Only the name of a format may be empty. -/
def addValue (given : List String) (name value : String)
    (rest : List String → Except UsageError Options) : Except UsageError Options :=
  if given.contains name then .error (.repeated name)
  else if value.isEmpty && name != "format" then .error (.noValue name)
  else do
    match ← rest (name :: given) with
    | .values values => return .values ((name, value) :: values)
    | .help => return .help

/-- Reads the options of a command, of which some are already given. -/
def readOptions (command : CommandName) (given : List String) :
    List String → Except UsageError Options
  | [] => .ok (.values [])
  | argument :: rest =>
    match dropStart? "--" argument with
    | some option =>
      if option.isEmpty then
        match rest with
        | [] => .ok (.values [])
        | extra :: _ => .error (.unexpected extra)
      else if option = "help" then .ok .help
      else
        let (name, value?) := splitValue option
        if !command.options.contains name then .error (.unexpected argument)
        else
          match value?, rest with
          | some value, rest => addValue given name value fun given => readOptions command given rest
          | none, value :: rest =>
            if looksLikeOption value then .error (.noValue name)
            else addValue given name value fun given => readOptions command given rest
          | none, [] => .error (.noValue name)
    | none =>
      if (dropStart? "-h" argument).isSome then .ok .help else .error (.unexpected argument)

def required (values : List (String × String)) (name : String) : Except UsageError String :=
  match values.find? (·.1 == name) with
  | some (_, value) => .ok value
  | none => .error (.missing name)

def optional (values : List (String × String)) (name : String) : Option String :=
  (values.find? (·.1 == name)).map Prod.snd

def invocation (values : List (String × String)) : CommandName → Except UsageError Invocation
  | .check => do
    return .check (← required values "code") (← required values "suite")
      ((optional values "format").getD "text") (optional values "config")
  | .analyze => do return .analyze (← required values "code")
  | .validate => .ok (.validate (optional values "suite") (optional values "config"))
  | .serve => .ok (.serve (optional values "config"))
  | .init => .ok .init

def helpOn : List String → Except UsageError Invocation
  | [] => .ok (.help none)
  | name :: rest =>
    match CommandName.ofText? name, rest with
    | some command, [] => .ok (.help (some command))
    | some _, extra :: _ => .error (.unexpected extra)
    | none, _ => if name = "help" then .ok (.help none) else .error (.unknownCommand name)

def parse : List String → Except UsageError Invocation
  | [] => .error .noCommand
  | argument :: rest =>
    if argument = "--version" || (dropStart? "-V" argument).isSome then .ok .version
    else if argument = "--help" || (dropStart? "-h" argument).isSome then .ok (.help none)
    else if argument = "help" then helpOn rest
    else
      match CommandName.ofText? argument with
      | some command => do
        match ← readOptions command [] rest with
        | .help => return .help (some command)
        | .values values => invocation values command
      | none =>
        if looksLikeOption argument then .error (.unexpected argument)
        else .error (.unknownCommand argument)

end SubmissionGrader.CommandLine
