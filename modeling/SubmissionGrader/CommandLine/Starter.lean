/-!
# Starter files

The configuration and the suite with which a course begins.
-/

namespace SubmissionGrader.CommandLine

def starterConfig : String :=
  "# jsxgrade configuration\n\n" ++
  "max_nesting_depth = 256\n" ++
  "cache_capacity = 0\n" ++
  "default_min_count = 1\n" ++
  "log_cases = true\n" ++
  "suite_dir = \"suites\"\n"

def starterSuite : String :=
  "[suite]\n" ++
  "id = \"example\"\n" ++
  "name = \"Example Suite\"\n" ++
  "description = \"A first function component\"\n\n" ++
  "[[cases]]\n" ++
  "type = \"ast\"\n" ++
  "description = \"Declares a component function\"\n" ++
  "checker = \"hasFunctionDeclaration || hasArrowFunction\"\n\n" ++
  "[[cases]]\n" ++
  "type = \"ast\"\n" ++
  "description = \"Returns JSX\"\n" ++
  "checker = \"isJSXElement\"\n\n" ++
  "[[cases]]\n" ++
  "type = \"pattern\"\n" ++
  "description = \"Exports the component\"\n" ++
  "pattern = \"export\\\\s+default\"\n"

end SubmissionGrader.CommandLine
