import SubmissionGrader.CommandLine.Arguments

/-!
# Help for the command line

The texts that the program shows about itself.
-/

namespace SubmissionGrader.CommandLine

def versionText : String := "jsxgrade 0.1.0\n"

def CommandName.purpose : CommandName → String
  | check => "Grade a source file against a suite"
  | analyze => "Print the feature context, validation, and quality metrics of a file"
  | validate => "Validate suite files"
  | serve => "Answer host protocol requests on stdin/stdout, one JSON object per line"
  | init => "Create starter config and example suite"

def CommandName.usage : CommandName → String
  | check => "jsxgrade check [OPTIONS] --code <CODE> --suite <SUITE>"
  | analyze => "jsxgrade analyze --code <CODE>"
  | validate => "jsxgrade validate [OPTIONS]"
  | serve => "jsxgrade serve [OPTIONS]"
  | init => "jsxgrade init"

def CommandName.optionTexts : CommandName → List (String × String)
  | check =>
    [("    --code <CODE>", "Source file to grade"), ("    --suite <SUITE>", "Suite file (.toml or .json)"),
     ("    --format <FORMAT>", "Output format: text, json [default: text]"),
     ("    --config <CONFIG>", "Config file path")]
  | analyze => [("    --code <CODE>", "Source file to analyze")]
  | validate =>
    [("    --suite <SUITE>", "Path to suite file or directory (default: the configured suite_dir)"),
     ("    --config <CONFIG>", "Config file path")]
  | serve => [("    --config <CONFIG>", "Config file path")]
  | init => []

def twoColumns (entries : List (String × String)) : String :=
  let width := (entries.map fun entry => entry.1.length).foldl max 0
  String.join <| entries.map fun (left, right) =>
    "  " ++ left ++ String.ofList (List.replicate (width - left.length) ' ') ++ "  " ++ right ++ "\n"

def helpText : Option CommandName → String
  | none =>
    "Grade JSX/TypeScript submissions against test suites\n\nUsage: jsxgrade <COMMAND>\n\nCommands:\n" ++
      twoColumns
        ((CommandName.all.map fun command => (command.text, command.purpose)) ++
          [("help", "Print this message or the help of the given subcommand(s)")]) ++
      "\nOptions:\n" ++ twoColumns [("-h, --help", "Print help"), ("-V, --version", "Print version")]
  | some command =>
    command.purpose ++ "\n\nUsage: " ++ command.usage ++ "\n\nOptions:\n" ++
      twoColumns (command.optionTexts ++ [("-h, --help", "Print help")])

def usageText (error : UsageError) : String :=
  "error: " ++ error.message ++ "\n\nUsage: jsxgrade <COMMAND>\n\nFor more information, try '--help'.\n"

end SubmissionGrader.CommandLine
