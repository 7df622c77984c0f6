import SubmissionGrader.Syntax.Grammar.Expression

/-!
# Statements

Statements, declarations, imports and exports.
-/

namespace SubmissionGrader.Syntax.Grammar

open Reader

variable (self : Rules)

def expressionStatement : Reader Concrete :=
  build (named "expression_statement") do
    let value ← expressions self .expression
    return value :: (← semicolon .expression)

def block : Reader Concrete :=
  build (named "statement_block") do
    let opening ← op "\x7b"
    let body ← many do
      triviaAtStart
      if ← sees "\x7d" then return none
      return some (← self .statement)
    return opening :: body ++ [← op "\x7d"]

/-- A block, or an object literal in its place. -/
def blockOrObject : Reader Concrete := do
  let labelled ← peek? (op "\x7b" >>= fun _ => anyWord .identifier >>= fun _ => op ":")
  if labelled.isSome then orElse (settled (expressionStatement self)) (self .block)
  else orElse (settled (self .block)) (expressionStatement self)

/-! ### Variables -/

/-- A declared variable with type and value, and what its end means for semicolons. -/
def declarator : Reader (Concrete × Ending) := do
  trivia
  let start ← offset
  let name ← (do
    if (← sees "\x7b") || (← sees "[") then destructuring self else anyWord .identifier)
  let mark ← opIf "!"
  let type ← typeAnnotationIf self .statement
  if !mark.isEmpty && type.isEmpty then refuse
  let value ← (do
    if !(← semicolonInserted .statement) && (← sees "=") then
      return [← op "=", ← self (.expression .expression false)]
    else return [])
  let node := Concrete.named .variableDeclarator ⟨start, ← offset⟩
    (name.withField .name :: mark ++ type ++ value)
  return (node, if value.isEmpty then .statement else .expression)

/-- The variables of a declaration, up to and including its semicolon. -/
def declarators : Reader (List Concrete) := do
  let (nodes, ending) ← grow (fun (nodes, ending) => do
    if ← semicolonInserted ending then return none
    if ← sees "," then
      let comma ← op ","
      let (node, next) ← declarator self
      return some (nodes ++ [comma, node], next)
    else return none) (← (do let (node, ending) ← declarator self; return ([node], ending)))
  return nodes ++ (← semicolon ending)

def variableDeclaration : Reader Concrete :=
  build .variableDeclaration do return (← keyword "var") :: (← declarators self)

def lexicalDeclaration (word : String) : Reader Concrete :=
  build .lexicalDeclaration do
    return (← keyword word).withField .kind :: (← declarators self)

/-- Whether `let` begins a declaration here, and is no name itself. -/
def seesLexical : Reader Bool := do
  return (← peek? do
    let _ ← keyword "let"
    if ← semicolonInserted .expression then refuse
    let word ← nextWord
    if word.isEmpty then
      if (← sees "\x7b") || (← sees "[") then return () else refuse
    else if ["in", "instanceof", "as", "satisfies"].contains word then refuse).isSome

/-! ### Functions, classes and types -/

def seesNamedFunction : Reader Bool := do
  return (← peek? do
    if ← seesWord "async" then
      let _ ← keyword "async"
      if ← semicolonInserted .expression then refuse
    let _ ← keyword "function"
    let _ ← opIf "*"
    anyWord .identifier).isSome

/-- A function declaration, or a signature without body. -/
def functionDeclaration : Reader Concrete := do
  trivia
  let start ← offset
  let async ← keywordIf "async"
  let mark ← keyword "function"
  let star ← opIf "*"
  let name ← anyWord .identifier
  let signature ← callSignature self .signature
  let front := async ++ [mark] ++ star ++ [name.withField .name] ++ signature
  if ← sees "\x7b" then
    let body ← self .block
    let kind := if star.isEmpty then Kind.functionDeclaration
      else Kind.generatorFunctionDeclaration
    return .named kind ⟨start, ← offset⟩ (front ++ [body])
  else
    let close ← semicolon .signature
    return .named (named "function_signature") ⟨start, ← offset⟩ (front ++ close)

def seesNamedClass : Reader Bool := do
  return (← peek? do
    let _ ← keywordIf "abstract"
    let _ ← keyword "class"
    wordExcept ["extends", "implements"] .typeIdentifier).isSome

def classDeclaration (start : Nat) (before : List Concrete) : Reader Concrete := do
  let abstract_ ← keywordIf "abstract"
  let (_, parts) ← classParts self
  let kind := if abstract_.isEmpty then Kind.classDeclaration
    else named "abstract_class_declaration"
  return .named kind ⟨start, ← offset⟩ (before ++ abstract_ ++ parts)

def enumMember : Reader (List Concrete) := do
  let name ← propertyName self
  if ← sees "=" then
    return [← extendNode (named "enum_assignment") (name.withField .name) do
      return [← op "=", ← self (.expression .closed false)]]
  else return [name.withField .name]

def enumDeclaration : Reader Concrete :=
  build (named "enum_declaration") do
    let modifier ← keywordIf "const"
    let mark ← keyword "enum"
    let name ← anyWord .identifier
    let body ← build (named "enum_body") do
      let opening ← op "\x7b"
      let members ← separated "\x7d" (enumMember self)
      return opening :: members ++ [← op "\x7d"]
    return modifier ++ [mark, name.withField .name, body]

def interfaceDeclaration : Reader Concrete :=
  build (named "interface_declaration") do
    let mark ← keyword "interface"
    let name ← anyWord .typeIdentifier
    let generics ← typeParametersIf self
    let bases ← (do
      if ← seesWord "extends" then
        return [← build (named "extends_type_clause") do
          let mark ← keyword "extends"
          let first ← namedType self
          let others ← many do
            if ← sees "," then return some [← op ",", ← namedType self] else return none
          return mark :: first :: others.flatten]
      return [])
    return [mark, name.withField .name] ++ generics ++ bases ++
      [← objectType self (named "interface_body")]

def typeAlias : Reader Concrete :=
  build (named "type_alias_declaration") do
    let mark ← keyword "type"
    let name ← anyWord .typeIdentifier
    let generics ← typeParametersIf self
    let equals ← op "="
    let value ← self (.type .statement)
    return [mark, name.withField .name] ++ generics ++ [equals, value] ++
      (← semicolon .statement)

/-- A module or namespace; its body may be missing. -/
def moduleDeclaration (word : String) : Reader Concrete :=
  build (named (if word == "module" then "module" else "internal_module")) do
    let mark ← keyword word
    let c ← nextChar
    let name ← if c == some '\x22' || c == some '\x27' then string
      else dotted (named "nested_identifier")
    if ← sees "\x7b" then return [mark, name.withField .name, ← self .block]
    else return [mark, name.withField .name]

/-- Whether a word is followed, before any automatic semicolon, by a word, or by what `also`
accepts. -/
def seesContinued (word : String) (also : Reader Bool) : Reader Bool := do
  return (← peek? do
    let _ ← keyword word
    if ← semicolonInserted .expression then refuse
    let next ← nextWord
    if !next.isEmpty && !(["in", "instanceof", "as", "satisfies"].contains next) then return ()
    if ← also then return () else refuse).isSome

def seesString : Reader Bool := do
  let c ← nextChar
  return c == some '\x22' || c == some '\x27'

def importAlias : Reader Concrete :=
  build (named "import_alias") do
    let front := [← keyword "import", ← anyWord .identifier, ← op "=",
      ← dotted (named "nested_identifier")]
    return front ++ (← semicolon .statement)

def declarationIf : Reader (Option Concrete) := do
  trivia
  let start ← offset
  match ← nextWord with
  | "function" => if ← seesNamedFunction then return some (← functionDeclaration self) else return none
  | "async" => if ← seesNamedFunction then return some (← functionDeclaration self) else return none
  | "class" => if ← seesNamedClass then return some (← classDeclaration self start []) else return none
  | "abstract" => return some (← classDeclaration self start [])
  | "var" => return some (← variableDeclaration self)
  | "const" =>
    let isEnum ← peek? (keyword "const" >>= fun _ => keyword "enum")
    if isEnum.isSome then return some (← enumDeclaration self)
    else return some (← lexicalDeclaration self "const")
  | "let" => if ← seesLexical then return some (← lexicalDeclaration self "let") else return none
  | "enum" => return some (← enumDeclaration self)
  | "interface" => return some (← interfaceDeclaration self)
  | "type" =>
    if ← seesContinued "type" (pure false) then return some (← typeAlias self) else return none
  | "namespace" =>
    if ← seesContinued "namespace" seesString then
      return some (← moduleDeclaration self "namespace")
    else return none
  | "module" =>
    if ← seesContinued "module" seesString then return some (← moduleDeclaration self "module")
    else return none
  | "declare" =>
    if ← seesContinued "declare" (sees "@") then
      return some (← build (named "ambient_declaration") do
        let mark ← keyword "declare"
        if ← seesWord "global" then return [mark, ← keyword "global", ← self .block]
        else
          let qualified ← peek? (keyword "module" >>= fun _ => op ".")
          if qualified.isSome then
            let front := [mark, ← keyword "module", ← op ".", ← anyWord .propertyIdentifier,
              ← op ":", ← self (.type .statement)]
            return front ++ (← semicolon .statement)
          else return [mark, ← self .statement])
    else return none
  | "" =>
    let decorated ← peek? do
      if ← sees "@" then
        let _ ← decorators self
        if ← seesNamedClass then return () else refuse
      else refuse
    if decorated.isSome then
      let before ← decorators self
      return some (← classDeclaration self start before)
    else return none
  | _ => return none

/-! ### Imports and exports -/

/-- A name in a list of imports or exports: a word or a string. -/
def exportName : Reader Concrete := do
  if ← seesString then string else anyWord .identifier

def specifiers (list item : String) : Reader Concrete :=
  build (named list) do
    let opening ← op "\x7b"
    let items ← separated "\x7d" do
      return [← build (named item) do
        let word ← nextWord
        let modifies ← peek? do
          if word != "type" && word != "typeof" then refuse
          let _ ← keyword word
          if (← seesString) || (!(← nextWord).isEmpty && !(← seesWord "as")) then return ()
          else refuse
        let modifier ← if modifies.isSome then keywordIf word else pure []
        let name ← exportName
        if ← seesWord "as" then
          return modifier ++ [name.withField .name, ← keyword "as", ← exportName]
        else return modifier ++ [name.withField .name]]
    return opening :: items ++ [← op "\x7d"]

def namespaceImport : Reader Concrete :=
  build (named "namespace_import") do
    return [← op "*", ← keyword "as", ← anyWord .identifier]

def importClause : Reader Concrete :=
  build (named "import_clause") do
    let several : Reader Concrete := do
      if ← sees "*" then namespaceImport else specifiers "named_imports" "import_specifier"
    if (← sees "*") || (← sees "\x7b") then return [← several]
    else
      let name ← anyWord .identifier
      if ← sees "," then return [name, ← op ",", ← several] else return [name]

def fromClause : Reader (List Concrete) := do
  return [← keyword "from", (← string).withField .source]

def importStatement : Reader Concrete :=
  build .importStatement do
    let mark ← keyword "import"
    let modifies ← peek? do
      let word ← nextWord
      if word != "type" && word != "typeof" then refuse
      let _ ← keyword word
      if (← sees "\x7b") || (← sees "*") then return ()
      let next ← nextWord
      if next.isEmpty then refuse
      if next == "from" then
        let _ ← keyword "from"
        if ← seesString then refuse else return ()
    let modifier ← if modifies.isSome then keywordIf (← nextWord) else pure []
    let body ← (do
      if ← seesString then return [(← string).withField .source]
      let requires ← peek? (anyWord .identifier >>= fun _ => op "=")
      if requires.isSome then
        return [← build (named "import_require_clause") do
          return [← anyWord .identifier, ← op "=", ← keyword "require", ← op "(",
            (← string).withField .source, ← op ")"]]
      return (← importClause) :: (← fromClause))
    let attributes ← (do
      if ← semicolonInserted .statement then return []
      if ← seesWord "with" then
        return [← build (named "import_attribute") do return [← keyword "with", ← object self]]
      if ← seesWord "assert" then
        return [← build (named "import_attribute") do return [← keyword "assert", ← object self]]
      return [])
    return [mark] ++ modifier ++ body ++ attributes ++ (← semicolon .statement)

/-- An import statement, or a name for a part of a namespace. -/
def importOrAlias : Reader Concrete := do
  let isAlias ← peek? do
    let _ ← keyword "import"
    let _ ← anyWord .identifier
    let _ ← op "="
    let required ← peek? (keyword "require" >>= fun _ => op "(")
    if required.isSome then refuse else return ()
  if isAlias.isSome then importAlias else importStatement self

/-- What a module exports by default. -/
def defaultExport : Reader (List Concrete) := do
  let mark ← keyword "default"
  match ← declarationIf self with
  | some declaration => return [mark, declaration]
  | none =>
    let value ← self (.expression .expression false)
    return mark :: value :: (← semicolon .expression)

def exportStatement (start : Nat) (before : List Concrete) : Reader Concrete := do
  let mark ← keyword "export"
  let body ← (do
    match ← nextOperator with
    | "*" =>
      let isNamed ← peek? (op "*" >>= fun _ => keyword "as")
      let front ← (do
        if isNamed.isSome then
          return [← build (named "namespace_export") do
            return [← op "*", ← keyword "as", ← exportName]]
        else return [← op "*"])
      return front ++ (← fromClause) ++ (← semicolon .statement)
    | "\x7b" =>
      let clause ← specifiers "export_clause" "export_specifier"
      let source ← (do
        if !(← semicolonInserted .statement) && (← seesWord "from") then fromClause
        else return [])
      return clause :: source ++ (← semicolon .statement)
    | "=" =>
      let equals ← op "="
      let value ← self (.expression .expression false)
      return equals :: value :: (← semicolon .expression)
    | _ =>
      match ← nextWord with
      | "default" => defaultExport self
      | "as" =>
        let front := [← keyword "as", ← keyword "namespace", ← anyWord .identifier]
        return front ++ (← semicolon .statement)
      | "import" => return [← importAlias]
      | _ =>
        let isTypes ← peek? (keyword "type" >>= fun _ => op "\x7b")
        if isTypes.isSome then
          let front := [← keyword "type", ← specifiers "export_clause" "export_specifier"]
          let source ← (do
            if !(← semicolonInserted .statement) && (← seesWord "from") then fromClause
            else return [])
          return front ++ source ++ (← semicolon .statement)
        else
          match ← declarationIf self with
          | some declaration => return [declaration]
          | none => refuse)
  return .named (named "export_statement") ⟨start, ← offset⟩ (before ++ mark :: body)

/-! ### Control -/

def ifStatement : Reader Concrete :=
  build (named "if_statement") do
    let front := [← keyword "if", ← parenthesized self, ← self .statement]
    if ← seesWord "else" then
      return front ++ [← build (named "else_clause") do
        return [← keyword "else", ← self .statement]]
    else return front

/-- The statements of a case, up to the next case. -/
def caseBody : Reader (List Concrete) :=
  many do
    triviaAtStart
    if (← sees "\x7d") || (← seesWord "case") || (← seesWord "default") then return none
    return some (← self .statement)

def switchStatement : Reader Concrete :=
  build (named "switch_statement") do
    let front := [← keyword "switch", ← parenthesized self]
    let body ← build (named "switch_body") do
      let opening ← op "\x7b"
      let cases ← many do
        if ← sees "\x7d" then return none
        if ← seesWord "case" then
          return some (← build (named "switch_case") do
            let front := [← keyword "case", ← expressions self .closed, ← op ":"]
            return front ++ (← caseBody self))
        else
          return some (← build (named "switch_default") do
            let front := [← keyword "default", ← op ":"]
            return front ++ (← caseBody self))
      return opening :: cases ++ [← op "\x7d"]
    return front ++ [body]

/-- The part of a loop over keys or values that stands in parentheses. -/
def forInHeader : Reader (List Concrete) := do
  let opening ← op "("
  let word ← nextWord
  let declared : Reader (List Concrete) := do
    let mark ← keyword word
    let name ← (do
      if (← sees "\x7b") || (← sees "[") then destructuring self else anyWord .identifier)
    let value ← if word == "var" then initializerIf self .closed else pure []
    if (← seesWord "in") || (← seesWord "of") then
      return mark.withField .kind :: name.withField .left :: value
    else refuse
  let stored : Reader (List Concrete) := do
    let target ← (do
      if (← sees "\x7b") || (← sees "[") then destructuring self
      else grow (suffix self .closed true) (← operandHead self .closed false))
    if isTarget target then return [target.withField .left] else refuse
  let left ← if ["var", "let", "const"].contains word then orElse declared stored else stored
  let operator ← if ← seesWord "in" then keyword "in" else keyword "of"
  return opening :: left ++ [operator, ← expressions self .closed, ← op ")"]

def emptyStatement : Reader Concrete :=
  build (named "empty_statement") do return [← op ";"]

def forHeader : Reader (List Concrete) := do
  let opening ← op "("
  let clause : Reader (List Concrete) := do
    if ← sees ";" then return [← emptyStatement]
    return [← expressions self .closed, ← op ";"]
  let first ← (do
    match ← nextWord with
    | "var" => return [← variableDeclaration self]
    | "const" => return [← lexicalDeclaration self "const"]
    | "let" => if ← seesLexical then return [← lexicalDeclaration self "let"] else clause
    | _ => clause)
  let condition ← clause
  let step ← (do if ← sees ")" then return [] else return [← expressions self .closed])
  return opening :: first ++ condition ++ step ++ [← op ")"]

def forStatement : Reader Concrete := do
  trivia
  let start ← offset
  let mark ← keyword "for"
  let wait ← keywordIf "await"
  match ← optional (forInHeader self) with
  | some header =>
    let body ← self .statement
    return .named (named "for_in_statement") ⟨start, ← offset⟩ (mark :: wait ++ header ++ [body])
  | none =>
    let header ← forHeader self
    let body ← self .statement
    return .named (named "for_statement") ⟨start, ← offset⟩ (mark :: header ++ [body])

def doStatement : Reader Concrete :=
  build (named "do_statement") do
    let front := [← keyword "do", ← self .statement, ← keyword "while", ← parenthesized self]
    if ← semicolonInserted .statement then return front
    return front ++ (← opIf ";")

def tryStatement : Reader Concrete :=
  build (named "try_statement") do
    let front := [← keyword "try", ← self .block]
    let handler ← (do
      if ← seesWord "catch" then
        return [← build .catchClause do
          let mark ← keyword "catch"
          let binding ← (do
            if ← sees "(" then
              let opening ← op "("
              let name ← (do
                if (← sees "\x7b") || (← sees "[") then destructuring self
                else anyWord .identifier)
              let type ← typeAnnotationIf self .closed
              return opening :: name.withField .parameter :: type ++ [← op ")"]
            return [])
          return mark :: binding ++ [← self .block]]
      return [])
    let finalizer ← (do
      if ← seesWord "finally" then
        return [← build (named "finally_clause") do return [← keyword "finally", ← self .block]]
      return [])
    return front ++ handler ++ finalizer

def jump (word : String) : Reader Concrete :=
  build (named (word ++ "_statement")) do
    let mark ← keyword word
    if ← semicolonInserted .statement then return [mark]
    let label ← (do
      if (← nextWord).isEmpty then return []
      return [← anyWord (named "statement_identifier")])
    return mark :: label ++ (← semicolon .statement)

def returnStatement : Reader Concrete :=
  build .returnStatement do
    let mark ← keyword "return"
    if ← semicolonInserted .statement then return [mark]
    if ← sees ";" then return [mark, ← op ";"]
    let value ← expressions self .expression
    return mark :: value :: (← semicolon .expression)

def labeledStatement : Reader Concrete :=
  build (named "labeled_statement") do
    return [← anyWord (named "statement_identifier"), ← op ":", ← self .statement]

def wordStatement : Reader Concrete := do
  let word ← nextWord
  match word with
  | "if" => ifStatement self
  | "switch" => switchStatement self
  | "for" => forStatement self
  | "while" =>
    build (named "while_statement") do
      return [← keyword "while", ← parenthesized self, ← self .statement]
  | "do" => doStatement self
  | "try" => tryStatement self
  | "with" =>
    build (named "with_statement") do
      return [← keyword "with", ← parenthesized self, ← self .statement]
  | "break" => jump "break"
  | "continue" => jump "continue"
  | "debugger" =>
    build (named "debugger_statement") do
      return (← keyword "debugger") :: (← semicolon .statement)
  | "return" => returnStatement self
  | "throw" =>
    build (named "throw_statement") do
      let front := [← keyword "throw", ← expressions self .expression]
      return front ++ (← semicolon .expression)
  | _ =>
    let isLabel ← peek? (anyWord .identifier >>= fun _ => op ":")
    if isLabel.isSome && !expressionKeywords.contains word then labeledStatement self
    else
      match word with
      | "import" =>
        let isExpression ← peek? do
          let _ ← keyword "import"
          if (← sees "(") || (← sees ".") then return () else refuse
        if isExpression.isSome then expressionStatement self else importOrAlias self
      | "export" =>
        trivia
        let start ← offset
        exportStatement self start []
      | _ =>
        match ← declarationIf self with
        | some declaration => return declaration
        | none => expressionStatement self

/-- A statement that begins with a decorator: a class, or the export of one. -/
def decoratedStatement : Reader Concrete := do
  trivia
  let start ← offset
  let exports ← peek? (decorators self >>= fun _ => keyword "export")
  if exports.isSome then
    let before ← decorators self
    exportStatement self start before
  else
    let named ← peek? do
      let _ ← decorators self
      if ← seesNamedClass then return () else refuse
    if named.isSome then
      let before ← decorators self
      classDeclaration self start before
    else expressionStatement self

def statement : Reader Concrete := do
  triviaAtStart
  match ← nextOperator with
  | "\x7b" => blockOrObject self
  | ";" => emptyStatement
  | "@" => decoratedStatement self
  | _ => if (← nextWord).isEmpty then expressionStatement self else wordStatement self

/-- A whole source: a line for the system's interpreter, and statements. -/
def program : Reader Concrete := do
  triviaAtStart
  let first ← (do
    match ← rest with
    | '#' :: '!' :: more =>
      return [← leaf (.named .hashBangLine) (2 + Lexeme.run (· != '\n') more)]
    | _ => return [])
  let body ← many do
    triviaAtStart
    if ← atEnd then return none
    return some (← self .statement)
  return .named (named "program") ⟨0, ← offset⟩ (first ++ body)

end SubmissionGrader.Syntax.Grammar
