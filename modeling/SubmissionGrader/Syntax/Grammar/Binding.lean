import SubmissionGrader.Syntax.Grammar.Rule

/-!
# Patterns and parameters

Patterns bind names in declarations and parameters: words, object patterns, array patterns, rest
elements, and places such as `a.b`.
-/

namespace SubmissionGrader.Syntax.Grammar

open Reader

variable (self : Rules)

def typeAnnotation (ending : Ending) : Reader Concrete :=
  build (named "type_annotation") do
    return [← op ":", ← self (.type ending)]

def typeAnnotationIf (ending : Ending) : Reader (List Concrete) := do
  if ← sees ":" then return [← typeAnnotation self ending] else return []

def initializerIf (ending : Ending) : Reader (List Concrete) := do
  if ← sees "=" then return [← op "=", ← self (.expression ending false)] else return []

/-- A node, wrapped as the left side of a default if an equals sign follows. -/
def withDefault (kind : Kind) (left : Concrete) : Reader Concrete := do
  if ← sees "=" then
    extendNode kind (left.withField .left) do
      return [← op "=", ← self (.expression .closed false)]
  else return left

def patternWithDefault : Reader Concrete := do
  withDefault self (named "assignment_pattern") (← self .pattern)

def objectPattern : Reader Concrete :=
  build .objectPattern do
    let opening ← op "\x7b"
    let entries ← separated "\x7d" do
      if ← sees "," then return []
      if ← sees "..." then return [← self .pattern]
      if (← sees "\x7b") ||
          ((← sees "[") && (← peek? (propertyName self >>= fun _ => op ":")).isNone) then
        return [← withDefault self .objectAssignmentPattern (← self .pattern)]
      match ← peek? (propertyName self >>= fun _ => op ":") with
      | some _ =>
        return [← build .pairPattern do
          let key ← propertyName self
          return [key.withField .key, ← op ":", ← patternWithDefault self]]
      | none =>
        let name ← anyWord .shorthandPropertyIdentifierPattern
        return [← withDefault self .objectAssignmentPattern name]
    return opening :: entries ++ [← op "\x7d"]

def arrayPattern : Reader Concrete :=
  build .arrayPattern do
    let opening ← op "["
    let entries ← separated "]" do
      if ← sees "," then return []
      return [← patternWithDefault self]
    return opening :: entries ++ [← op "]"]

def destructuring : Reader Concrete := do
  if ← sees "\x7b" then objectPattern self else arrayPattern self

/-- A name that a pattern binds, or the word `undefined`. -/
def boundName : Reader Concrete := do
  if ← seesWord "undefined" then anyWord .undefined else wordExcept patternKeywords .identifier

/-- One more step of a place: a member, an element or a non-null mark. -/
def placeStep (place : Concrete) : Reader (Option Concrete) := do
  match ← nextOperator with
  | "." =>
    return some (← extendNode .memberExpression place do
      return [← op ".", (← memberName).withField .property])
  | "[" =>
    return some (← extendNode .subscriptExpression place do
      return [← op "[", ← expressions self .closed, ← op "]"])
  | "!" => return some (← extendNode .nonNullExpression place do return [← op "!"])
  | _ => return none

/-- A place that a pattern can store into: a name or a member. -/
def place : Reader Concrete := do
  if ← seesWord "this" then
    let whole ← grow (placeStep self) (← anyWord (named "this"))
    if whole.is (named "this") then refuse else return whole
  else grow (placeStep self) (← boundName)

def simplePattern : Reader Concrete := do
  if (← sees "\x7b") || (← sees "[") then destructuring self else place self

def pattern : Reader Concrete := do
  if ← sees "..." then
    build .restPattern do return [← op "...", ← simplePattern self]
  else simplePattern self

/-- A decorator: a name, a member, a call or one of these in parentheses. -/
def decorator : Reader Concrete :=
  build (named "decorator") do
    let mark ← op "@"
    let callee : Reader Concrete := dotted .memberExpression
    let call : Reader Concrete := do
      let target ← callee
      match ← nextOperator with
      | "(" => extendNode .callExpression target do return [← arguments self]
      | "<" =>
        extendNode .callExpression target do return [← typeArguments self, ← arguments self]
      | _ => return target
    if ← sees "(" then
      return [mark, ← build .parenthesizedExpression do return [← op "(", ← call, ← op ")"]]
    else return [mark, ← call]

def decorators : Reader (List Concrete) :=
  many do if ← sees "@" then return some (← decorator self) else return none

/-- A word that modifies the declaration it precedes, if a pattern follows it. -/
def parameterModifier : Reader (Option Concrete) := do
  let word ← nextWord
  let startsPattern : Reader Bool := do
    let next ← nextOperator
    return !(← nextWord).isEmpty || next == "\x7b" || next == "[" || next == "..."
  let modifies ← peek? do
    let _ ← keyword word
    if ← startsPattern then return () else refuse
  if modifies.isNone then return none
  match word with
  | "public" | "private" | "protected" =>
    return some (← build (named "accessibility_modifier") do return [← keyword word])
  | "override" => return some (← build (named "override_modifier") do return [← keyword word])
  | "readonly" => return some (← keyword word)
  | _ => return none

/-- A parameter: decorators, modifiers, a pattern, and optionally a type and a default. -/
def parameter : Reader Concrete := do
  trivia
  let start ← offset
  let before ← decorators self
  let modifiers ← many parameterModifier
  let thisAlone ← peek? do
    let _ ← keyword "this"
    let next ← nextOperator
    if next == "." || next == "[" || next == "!" then refuse else return ()
  let binding ← if thisAlone.isSome then anyWord (named "this") else self .pattern
  let mark ← opIf "?"
  let type ← typeAnnotationIf self .closed
  let value ← initializerIf self .closed
  let kind := if mark.isEmpty then Kind.requiredParameter else Kind.optionalParameter
  return .named kind ⟨start, ← offset⟩
    (before ++ modifiers ++ [binding.withField .pattern] ++ mark ++ type ++ value)

def parameters : Reader Concrete :=
  build .formalParameters do
    let opening ← op "("
    let items ← separated ")" do return [← parameter self]
    return opening :: items ++ [← op ")"]

end SubmissionGrader.Syntax.Grammar
