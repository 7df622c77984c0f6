import SubmissionGrader.Syntax.Grammar.Token

/-!
# Recursive rules of the grammar

The constructs through which the grammar nests. The readers of the following modules take a
`Rules`, the readers for nested constructs, as an argument; the knot is tied where whole sources
are read. Names and keywords that several constructs share are here too.
-/

namespace SubmissionGrader.Syntax

inductive Rule where
  /-- An expression; `branch` says that it is the middle part of a conditional. -/
  | expression (ending : Ending) (branch : Bool)
  /-- An operand of an operator; `postfixBang` says whether it may take a `!` behind it. -/
  | operand (ending : Ending) (branch postfixBang : Bool)
  /-- Operands joined by operators that bind at least as tightly as the given level. -/
  | operation (level : Nat) (ending : Ending) (branch : Bool)
  | type (ending : Ending)
  | typeOperand (ending : Ending)
  | pattern
  | parameters
  | block
  | statement
  | element

/-- Readers for all recursive constructs. -/
abbrev Rules := Rule → Reader Concrete

namespace Grammar

/-- A kind that later stages do not tell apart. -/
abbrev named (name : String) : Kind := .other name

/-- Words that begin an expression and are no names there. -/
def expressionKeywords : List String :=
  ["this", "super", "true", "false", "null", "undefined", "function", "class", "import", "typeof",
   "void", "delete", "await", "yield", "new", "using"]

/-- Words that cannot be the name that a pattern binds. -/
def patternKeywords : List String :=
  ["this", "super", "true", "false", "null", "function", "class", "import", "typeof", "void",
   "delete", "await", "yield", "using"]

variable (self : Rules)

/-- The expressions of a list with commas, as one sequence if there are several. -/
def expressions (ending : Ending) : Reader Concrete := do
  let first ← self (.expression ending false)
  if ending != .closed && (← Reader.semicolonInserted ending) then return first
  if ← Reader.sees "," then
    Reader.extendNode .sequenceExpression first do
      let parts ← Reader.many do
        if ending != .closed && (← Reader.semicolonInserted ending) then return none
        if ← Reader.sees "," then
          return some [← Reader.op ",", ← self (.expression ending false)]
        return none
      return parts.flatten
  else return first

def parenthesized : Reader Concrete :=
  Reader.build .parenthesizedExpression do
    let opening ← Reader.op "("
    let inner ← expressions self .closed
    let type ← (do
      if inner.kind? != some .sequenceExpression && (← Reader.sees ":") then
        return [← Reader.build (named "type_annotation") do
          return [← Reader.op ":", ← self (.type .closed)]]
      return [])
    return [opening, inner] ++ type ++ [← Reader.op ")"]

def string : Reader Concrete :=
  Reader.build .string do
    Reader.trivia
    match (← Reader.rest).head? with
    | none => Reader.refuse
    | some quote =>
      if quote != '\x22' && quote != '\x27' then Reader.refuse
      else
        let opening ← Reader.leaf (.token (String.singleton quote)) 1
        let parts ← Reader.many do
          let cs ← Reader.rest
          match Lexeme.run (fun c => c != quote && c != '\\' && c != '\n' && c != '\r') cs with
          | 0 =>
            match Lexeme.escape cs with
            | 0 => return none
            | n + 1 => return some (← Reader.leaf (.named (named "escape_sequence")) (n + 1))
          | n + 1 => return some (← Reader.leaf (.named (named "string_fragment")) (n + 1))
        if (← Reader.rest).head? == some quote then
          return opening :: parts ++ [← Reader.leaf (.token (String.singleton quote)) 1]
        else Reader.refuse

def number : Reader Concrete := do
  Reader.trivia
  match Lexeme.number (← Reader.rest) with
  | 0 => Reader.refuse
  | n + 1 => Reader.leaf (.named .number) (n + 1)

/-- The length of the literal text at the front of a template. -/
def templateRun : List Char → Nat
  | '$' :: '{' :: _ => 0
  | c :: rest => if c == '\x60' || c == '\\' || c == '\x00' then 0 else 1 + templateRun rest
  | [] => 0

def template (kind : Kind) (partReader : Reader Concrete) : Reader Concrete :=
  Reader.build kind do
    let opening ← Reader.exactly "`"
    let parts ← Reader.many do
      let cs ← Reader.rest
      match templateRun cs with
      | n + 1 => return some (← Reader.leaf (.named (named "string_fragment")) (n + 1))
      | 0 =>
        match cs with
        | '$' :: '{' :: _ => return some (← partReader)
        | _ =>
          match Lexeme.escape cs with
          | 0 => return none
          | n + 1 => return some (← Reader.leaf (.named (named "escape_sequence")) (n + 1))
    if (← Reader.rest).head? == some '\x60' then
      return opening :: parts ++ [← Reader.leaf (.token "`") 1]
    else Reader.refuse

def templateString : Reader Concrete :=
  template (named "template_string") do
    Reader.build (named "template_substitution") do
      return [← Reader.exactly "$\x7b", ← expressions self .closed, ← Reader.op "\x7d"]

def privateName : Reader Concrete := do
  Reader.trivia
  match ← Reader.rest with
  | '#' :: rest =>
    match Lexeme.word rest with
    | 0 => Reader.refuse
    | n + 1 => Reader.leaf (.named .privatePropertyIdentifier) (n + 2)
  | _ => Reader.refuse

/-- The name of a property: a word, a private name, a string, a number or a computed name. -/
def propertyName : Reader Concrete := do
  match ← Reader.nextChar with
  | some '#' => privateName
  | some '\x22' => string
  | some '\x27' => string
  | some '[' =>
    Reader.build (named "computed_property_name") do
      return [← Reader.op "[", ← self (.expression .closed false), ← Reader.op "]"]
  | _ => Reader.orElse (Reader.anyWord .propertyIdentifier) number

def memberName : Reader Concrete := do
  if (← Reader.nextChar) == some '#' then privateName else Reader.anyWord .propertyIdentifier

/-- A name with dots. Its outermost node is of the given kind, inner ones are members. -/
def dotted (kind : Kind) : Reader Concrete := do
  let first ← Reader.anyWord .identifier
  let parts ← Reader.many do
    if ← Reader.sees "." then
      let dot ← Reader.op "."
      return some (dot, ← Reader.anyWord .propertyIdentifier)
    return none
  let join (kind : Kind) (object : Concrete) (p : Concrete × Concrete) : Concrete :=
    .named kind ⟨object.span.start, p.2.span.stop⟩ [object, p.1, p.2.withField .property]
  match parts.reverse with
  | [] => return first
  | last :: before =>
    return join kind (before.foldr (fun p object => join .memberExpression object p) first) last

def spread : Reader Concrete :=
  Reader.build (named "spread_element") do
    return [← Reader.op "...", ← self (.expression .closed false)]

/-- An entry of an array or of arguments; it may be missing. -/
def listEntry : Reader (List Concrete) := do
  match ← Reader.nextOperator with
  | "," => return []
  | "..." => return [← spread self]
  | _ => return [← self (.expression .closed false)]

def arguments : Reader Concrete :=
  Reader.build (named "arguments") do
    let opening ← Reader.op "("
    let items ← Reader.separated ")" (listEntry self)
    return opening :: items ++ [← Reader.op ")"]

/-- Whether an angle bracket follows that can close a list of types. -/
def seesTypeClose : Reader Bool := do return (← Reader.nextChar) == some '>'

def typeArguments : Reader Concrete :=
  Reader.build (named "type_arguments") do
    let opening ← Reader.exactly "<"
    let first ← self (.type .closed)
    let others ← (do
      if ← Reader.sees "," then
        let comma ← Reader.op ","
        let items ← Reader.separatedUntil seesTypeClose do return [← self (.type .closed)]
        return comma :: items
      return [])
    return opening :: first :: others ++ [← Reader.exactly ">"]

end Grammar

end SubmissionGrader.Syntax
