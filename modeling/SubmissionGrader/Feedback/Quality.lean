import SubmissionGrader.Number.Binary64
import SubmissionGrader.Pattern
import SubmissionGrader.Text.Units

/-!
# Quality metrics

Size, indentation, naming and complexity of a source, as far as its text shows them.
-/

namespace SubmissionGrader.Feedback

/-- The metrics of a source. Its size is counted in lines and in 16-bit units. -/
structure Quality where
  lines : Nat
  characters : Nat
  usesTabs : Bool
  usesSpaces : Bool
  /-- The percentage of declared names that are written in camel case. -/
  namingCompliance : Nat
  /-- The declared names that are not. -/
  misnamed : List String
  complexity : Nat
  deriving DecidableEq, Repr

namespace Quality

/-- Whether no line is indented otherwise than another. -/
def hasConsistentIndent (q : Quality) : Bool := !(q.usesTabs && q.usesSpaces)

def indentStyle (q : Quality) : String := if q.usesTabs then "tabs" else "spaces"

def namingIssues (q : Quality) : List String :=
  q.misnamed.map fun name => "Variable \"" ++ name ++ "\" should use camelCase"

end Quality

def indentsWith (c : Char) (source : String) : Bool :=
  (Text.splitOn '\n' source.toList).any fun line => (line.takeWhile Text.isBlank).contains c

/-- A declared name behind its keyword. -/
def declarationPattern : String := "\\b(?:var|let|const)\\s+([a-zA-Z_$][a-zA-Z0-9_$]*)"

/-- The names that a source declares, each once, in order. -/
def declaredNames (source : String) : List String :=
  let names := (Pattern.occurrences declarationPattern source).map fun text =>
    String.ofList (Text.dropBlanks (text.dropWhile fun c => !Text.isBlank c))
  names.eraseDups

/-- Whether a name begins with a small letter or an underscore and goes on with letters and
digits. -/
def isCamelCase (name : String) : Bool :=
  match name.toList with
  | [] => false
  | c :: rest => (c.isLower || c == '_') && rest.all Char.isAlphanum

def occurrenceCount (source pattern : String) : Nat := (Pattern.occurrences pattern source).length

def branchPatterns : List String :=
  ["\\bif\\s*\\(", "\\belse\\s*\\\x7b", "\\bcase\\s+", "\\b(?:for|while)\\s*\\("]

/-- The pattern of conditional expressions; each counts half. -/
def conditionalPattern : String := "\\s\\?\\s"

/-- One, the branches, and half of the conditional expressions, rounded up. -/
def complexity (source : String) : Nat :=
  branchPatterns.foldl (fun n pattern => n + occurrenceCount source pattern) 1 +
    (occurrenceCount source conditionalPattern + 1) / 2

/-- How many of a hundred, rounded to the nearest whole number, a half up. -/
def percentage (part total : Nat) : Nat :=
  match Binary64.multiply (.divide (.ofNat part) (.ofNat total)) (.ofNat 100) with
  | .finite _ x => (2 * x.steps + Magnitude.stepsInOne) / (2 * Magnitude.stepsInOne)
  | _ => 0

def quality (source : String) : Quality :=
  let names := declaredNames source
  let misnamed := names.filter fun name => !isCamelCase name
  { lines := (Text.splitOn '\n' source.toList).length
    characters := (Text.units source).length
    usesTabs := indentsWith '\t' source
    usesSpaces := indentsWith ' ' source
    namingCompliance :=
      if names.isEmpty then 100 else percentage (names.length - misnamed.length) names.length
    misnamed := misnamed
    complexity := complexity source }

end SubmissionGrader.Feedback
