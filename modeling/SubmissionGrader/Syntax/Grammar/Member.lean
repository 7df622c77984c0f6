import SubmissionGrader.Syntax.Grammar.TypeExpression

/-!
# Functions, objects and classes

Functions in expressions, methods, object literals, and the bodies of classes.
-/

namespace SubmissionGrader.Syntax.Grammar

open Reader

variable (self : Rules)

/-- A function behind its optional `async`: star, name, signature and body. -/
def functionParts : Reader (Bool × List Concrete) := do
  let mark ← keyword "function"
  let star ← opIf "*"
  let name ← (do
    if ← seesParameters then return []
    return [(← anyWord .identifier).withField .name])
  let signature ← callSignature self .closed
  return (!star.isEmpty, mark :: star ++ name ++ signature ++ [← self .block])

def functionExpression : Reader Concrete := do
  trivia
  let start ← offset
  let async ← keywordIf "async"
  let (isGenerator, parts) ← functionParts self
  let kind := if isGenerator then Kind.generatorFunction else Kind.functionExpression
  return .named kind ⟨start, ← offset⟩ (async ++ parts)

def objectEntry : Reader (List Concrete) := do
  if ← sees "," then return []
  if ← sees "..." then return [← spread self]
  trivia
  let start ← offset
  let modifiers ← memberModifiers .closed
  let name ← propertyName self
  let mark ← opIf "?"
  if ← seesParameters then
    let signature ← callSignature self .closed
    let body ← self .block
    return [.named .methodDefinition ⟨start, ← offset⟩
      (modifiers ++ [name.withField .name] ++ mark ++ signature ++ [body])]
  else if !modifiers.isEmpty || !mark.isEmpty then refuse
  else if ← sees ":" then
    return [← extendNode (named "pair") (name.withField .key) do
      return [← op ":", ← self (.expression .closed false)]]
  else if name.is .propertyIdentifier then
    match name with
    | .node head children =>
      return [.node { head with symbol := .named .shorthandPropertyIdentifier } children]
  else refuse

def object : Reader Concrete :=
  build (named "object") do
    let opening ← op "\x7b"
    let entries ← separated "\x7d" (objectEntry self)
    return opening :: entries ++ [← op "\x7d"]

def array : Reader Concrete :=
  build (named "array") do
    let opening ← op "["
    let entries ← separated "]" (listEntry self)
    return opening :: entries ++ [← op "]"]

def staticBlock : Reader Concrete :=
  build (named "class_static_block") do return [← keyword "static", ← self .block]

/-- A field of a class, behind its modifiers and its name. -/
def fieldRest (start : Nat) (before : List Concrete) : Reader (List Concrete) := do
  let mark ← (do
    if ← sees "?" then return [← op "?"]
    if ← sees "!" then return [← op "!"]
    return [])
  let type ← typeAnnotationIf self .statement
  let value ← initializerIf self .expression
  let field := Concrete.named (named "public_field_definition") ⟨start, ← offset⟩
    (before ++ mark ++ type ++ value)
  if ← sees "," then return [field, ← op ","]
  let ending := if value.isEmpty then Ending.statement else Ending.expression
  return field :: (← semicolon ending)

/-- A method, signature or field of a class. Decorators are part of a field, but stand in front of a
method. -/
def classMember : Reader (List Concrete) := do
  if ← sees ";" then return [← op ";"]
  let isStaticBlock ← peek? (keyword "static" >>= fun _ => op "\x7b")
  if isStaticBlock.isSome then return [← staticBlock self]
  if ← seesIndexSignature then
    let signature ← indexSignature self .statement
    if ← sees "," then return [signature, ← op ","]
    return signature :: (← semicolon .statement)
  trivia
  let start ← offset
  let before ← decorators self
  trivia
  let behind ← offset
  let modifiers ← memberModifiers .statement
  let name ← propertyName self
  let front := modifiers ++ [name.withField .name]
  let hasParameters ← peek? do
    let _ ← opIf "?"
    if ← seesParameters then return () else refuse
  if hasParameters.isNone then fieldRest self start (before ++ front)
  else
    let mark ← opIf "?"
    let signature ← callSignature self .signature
    if ← sees "\x7b" then
      let body ← self .block
      let method := Concrete.named .methodDefinition ⟨behind, ← offset⟩
        (front ++ mark ++ signature ++ [body])
      let close ← opIf ";"
      return before ++ [method] ++ close
    else
      let isAbstract := modifiers.any fun m => m.symbol == .token "abstract"
      let kind := if isAbstract then "abstract_method_signature" else "method_signature"
      let method := Concrete.named (named kind) ⟨start, ← offset⟩ (front ++ mark ++ signature)
      if ← sees "," then return [method, ← op ","]
      return method :: (← semicolon .signature)

def classBody : Reader Concrete :=
  build (named "class_body") do
    let opening ← op "\x7b"
    let parts ← many do
      if ← sees "\x7d" then return none
      return some (← classMember self)
    return opening :: parts.flatten ++ [← op "\x7d"]

def typeList : Reader (List Concrete) := do
  let first ← self (.type .closed)
  let others ← many do
    if ← sees "," then return some [← op ",", ← self (.type .closed)] else return none
  return first :: others.flatten

/-- The classes and interfaces that a class builds on, if there are some. -/
def heritageIf : Reader (List Concrete) := do
  let implementsClause : Reader Concrete :=
    build (named "implements_clause") do return (← keyword "implements") :: (← typeList self)
  if ← seesWord "extends" then
    return [← build (named "class_heritage") do
      let clause ← build (named "extends_clause") do
        let single : Reader (List Concrete) := do
          let value ← self (.operand .closed false true)
          if (← nextChar) == some '<' then return [value, ← typeArguments self]
          else return [value]
        let mark ← keyword "extends"
        let first ← single
        let others ← many do
          if ← sees "," then return some ((← op ",") :: (← single)) else return none
        return mark :: first ++ others.flatten
      if ← seesWord "implements" then return [clause, ← implementsClause]
      else return [clause]]
  else if ← seesWord "implements" then
    return [← build (named "class_heritage") do return [← implementsClause]]
  else return []

/-- A class from its keyword on; its name may be missing. -/
def classParts : Reader (Bool × List Concrete) := do
  let mark ← keyword "class"
  let word ← nextWord
  let name ← (do
    if word.isEmpty || word == "extends" || word == "implements" then return []
    return [(← anyWord .typeIdentifier).withField .name])
  let generics ← typeParametersIf self
  let heritage ← heritageIf self
  return (!name.isEmpty, mark :: name ++ generics ++ heritage ++ [← classBody self])

def classExpression : Reader Concrete := do
  trivia
  let start ← offset
  let before ← decorators self
  let (_, parts) ← classParts self
  return .named (named "class") ⟨start, ← offset⟩ (before ++ parts)

end SubmissionGrader.Syntax.Grammar
