import SubmissionGrader.Syntax.Grammar.Rule

/-!
# Markup

Elements with attributes and children, embedded in expressions.
-/

namespace SubmissionGrader.Syntax.Grammar

open Reader

variable (self : Rules)

/-- Whether the text shows anything: white space that begins with a line end does not. The flags
say whether only blanks followed the last line end, and whether something was shown before. -/
def showsText (atLineEnd shown : Bool) : List Char → Bool
  | [] => shown
  | c :: rest =>
    if c == '\n' then showsText true shown rest
    else
      let still := atLineEnd && Text.isAsciiBlank c
      showsText still (shown || !still) rest

def textRun (cs : List Char) : Nat :=
  Lexeme.run (fun c => c != '<' && c != '>' && c != '{' && c != '}' && c != '&' && c != '\x00') cs

/-- A name of a tag or attribute without dots, with hyphens or not. -/
def tagWord (kind : Kind) : Reader Concrete := do
  trivia
  let cs ← rest
  match max (Lexeme.word cs) (Lexeme.hyphenated cs) with
  | 0 => refuse
  | n + 1 => leaf (.named kind) (n + 1)

/-- Two names around a colon. -/
def namespaced (first : Concrete) : Reader Concrete :=
  extendNode (named "jsx_namespace_name") first do
    return [← op ":", ← tagWord .identifier]

def elementName : Reader Concrete := do
  match ← peek? (anyWord .identifier >>= fun _ => op ".") with
  | some _ => dotted .memberExpression
  | none =>
    let first ← tagWord .identifier
    if ← sees ":" then namespaced first else return first

/-- An expression in braces; it may be missing. -/
def embedded : Reader Concrete :=
  build (named "jsx_expression") do
    let opening ← op "\x7b"
    let inner ← (do
      if ← sees "\x7d" then return []
      if ← sees "..." then return [← spread self]
      return [← expressions self .closed])
    return opening :: inner ++ [← op "\x7d"]

/-- A quoted value of an attribute. References are its only special parts. -/
def attributeString : Reader Concrete :=
  build .string do
    trivia
    match (← rest).head? with
    | none => refuse
    | some quote =>
      if quote != '\x22' && quote != '\x27' then refuse
      else
        let opening ← leaf (.token (String.singleton quote)) 1
        let parts ← many do
          let cs ← rest
          match attributeRun quote cs with
          | 0 =>
            match Lexeme.entity cs with
            | 0 => return none
            | n + 1 => return some (← leaf (.named (named "html_character_reference")) (n + 1))
          | n + 1 => return some (← leaf (.named (named "string_fragment")) (n + 1))
        if (← rest).head? == some quote then
          return opening :: parts ++ [← leaf (.token (String.singleton quote)) 1]
        else refuse
where
  /-- The length of literal text; an ampersand before a letter or number sign ends it. -/
  attributeRun (quote : Char) : List Char → Nat
    | [] => 0
    | '&' :: rest =>
      match rest with
      | c :: _ => if c == '#' || c.isAlpha then 0 else 1 + skipOne quote rest
      | [] => 0
    | c :: rest => if c == quote then 0 else 1 + attributeRun quote rest
  /-- The length behind an ampersand that begins no reference. -/
  skipOne (quote : Char) : List Char → Nat
    | [] => 0
    | _ :: rest => 1 + attributeRun quote rest

def attributeValue : Reader Concrete := do
  match ← nextChar with
  | some '{' => embedded self
  | some '<' => self .element
  | _ => attributeString

/-- An attribute of an element, or an expression in braces in its place. -/
def tagAttribute : Reader Concrete := do
  if ← sees "\x7b" then embedded self
  else
    build .jsxAttribute do
      let first ← tagWord .propertyIdentifier
      let name ← (do
        if ← sees ":" then
          match first with
          | .node head children =>
            namespaced (.node { head with symbol := .named .identifier } children)
        else return first)
      if (← nextChar) == some '=' then
        return [name, ← exactly "=", ← attributeValue self]
      else return [name]

/-- What follows the opening bracket of a tag up to its end. -/
def tagHead : Reader (List Concrete) := do
  if (← nextChar) == some '>' then return []
  let name ← elementName
  let types ← (do
    if (← nextChar) == some '<' then return [← typeArguments self] else return [])
  let attributes ← many do
    match ← nextChar with
    | some '>' => return none
    | some '/' => return none
    | _ => return some (← tagAttribute self)
  return name.withField .name :: types ++ attributes

def children : Reader (List Concrete) :=
  many do
    let cs ← rest
    let n := textRun cs
    if showsText false false (cs.take n) then
      return some (← leaf (.named (named "jsx_text")) n)
    triviaAtStart
    match ← rest with
    | '<' :: '/' :: _ => return none
    | '<' :: _ => return some (← self .element)
    | '{' :: _ => return some (← embedded self)
    | '&' :: _ =>
      match Lexeme.entity (← rest) with
      | 0 => refuse
      | n + 1 => return some (← leaf (.named (named "html_character_reference")) (n + 1))
    | _ => refuse

def element : Reader Concrete := do
  trivia
  let start ← offset
  let opening ← exactly "<"
  let head ← tagHead self
  if !head.isEmpty && (← nextChar) == some '/' then
    let close ← exactly "/>"
    return .named .jsxSelfClosingElement ⟨start, ← offset⟩ (opening :: head ++ [close])
  let close ← exactly ">"
  let openTag := Concrete.named (named "jsx_opening_element") ⟨start, ← offset⟩
    (opening :: head ++ [close])
  let content ← children self
  let closeTag ← build (named "jsx_closing_element") do
    let mark ← exactly "</"
    let name ← (do
      if (← nextChar) == some '>' then return []
      return [(← elementName).withField .name])
    return mark :: name ++ [← exactly ">"]
  return .named .jsxElement ⟨start, ← offset⟩
    (openTag.withField .openTag :: content ++ [closeTag.withField .closeTag])

end SubmissionGrader.Syntax.Grammar
