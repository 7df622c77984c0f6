import SubmissionGrader.Syntax.Error
import SubmissionGrader.Syntax.Identifier
import SubmissionGrader.Text.Blank
import SubmissionGrader.Text.Search

/-!
# Early errors

The grammar accepts more than an engine runs: a `return` outside of functions, reserved words as
names of bindings, targets that nothing can be stored into, malformed numbers and identifiers, and
closing tags that do not match. `earlyError?` finds these at a single concrete node.
-/

namespace SubmissionGrader.Syntax

open SubmissionGrader.Text

/-- Words that cannot name a binding in module code. -/
def reservedBindings : List String :=
  ["let", "static", "yield", "await", "implements", "interface", "package", "private",
   "protected", "public", "eval", "arguments"]

/-- Kinds that a compound assignment or an update can store into. -/
def simpleTargets : List Kind :=
  [.identifier, .undefined, .memberExpression, .subscriptExpression, .parenthesizedExpression,
   .nonNullExpression]

def assignmentTargets : List Kind := simpleTargets ++ [.objectPattern, .arrayPattern]

/-- The name of a tag as it is compared: without white space. -/
def tagName (text : String) : String :=
  String.ofList (text.toList.filter fun c => !isBlank c)

variable (source : List Char)

def bindingError? (name : Option Concrete) : Option SyntaxError :=
  match name with
  | none => none
  | some name =>
    if name.is .identifier && reservedBindings.contains (name.text source) then
      some (.atNode source name (.reservedWord (name.text source)))
    else none

def targetError? (target : Option Concrete) (allowed : List Kind) : Option SyntaxError :=
  match target with
  | none => none
  | some target =>
    if allowed.any target.is then none else some (.atNode source target .invalidTarget)

/-- The letters of ASCII in lower case. -/
def lowerAscii (text : String) : List Char := text.toList.map Char.toLower

/-- A number without digits behind its radix, or with a separator that is not between digits. -/
def numberError? (t : Concrete) : Option SyntaxError :=
  let literal := lowerAscii (t.text source)
  if ["0x", "0b", "0o"].any fun mark => literal == mark.toList then
    some (.atNode source t .missingDigits)
  else if literal.getLast? == some '_' || occurs ['_', '_'] literal ||
      occurs ['_', '.'] literal then
    some (.atNode source t .misplacedSeparator)
  else none

def tagError? (t : Concrete) : Option SyntaxError :=
  let opening := (t.child? .openTag).bind (Concrete.child? · .name)
  match t.child? .closeTag with
  | none => none
  | some closeTag =>
    match opening, closeTag.child? .name with
    | none, none => none
    | none, some _ => some (.atNode source closeTag .unclosedFragment)
    | some opening, closing =>
      let expected := tagName (opening.text source)
      if closing.map (fun c => tagName (c.text source)) = some expected then none
      else some (.atNode source closeTag (.unclosedElement expected))

/-- The early error at a node, with `functions` functions around it. -/
def earlyError? (functions : Nat) (t : Concrete) : Option SyntaxError :=
  match t.kind? with
  | some .returnStatement =>
    if functions = 0 then some (.atNode source t .returnOutsideFunction) else none
  | some .number => numberError? source t
  | some .identifier | some .propertyIdentifier | some .shorthandPropertyIdentifier
  | some .shorthandPropertyIdentifierPattern | some .typeIdentifier =>
    if Identifier.isValid (t.text source) then none
    else some (.atNode source t .invalidIdentifier)
  | some .variableDeclarator | some .functionDeclaration | some .functionExpression
  | some .classDeclaration => bindingError? source (t.child? .name)
  | some .requiredParameter | some .optionalParameter =>
    bindingError? source (t.child? .pattern)
  | some .arrowFunction | some .catchClause => bindingError? source (t.child? .parameter)
  | some .assignmentExpression => targetError? source (t.child? .left) assignmentTargets
  | some .augmentedAssignmentExpression => targetError? source (t.child? .left) simpleTargets
  | some .updateExpression => targetError? source (t.child? .argument) simpleTargets
  | some .jsxElement => tagError? source t
  | _ => none

end SubmissionGrader.Syntax
