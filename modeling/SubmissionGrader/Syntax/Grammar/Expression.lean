import SubmissionGrader.Syntax.Grammar.Member

/-!
# Expressions

Operands with prefixes and suffixes, operators by level, conditionals, assignments and arrow
functions. An assignment binds to the place directly before its operator, whatever stands in front
of that place.
-/

namespace SubmissionGrader.Syntax.Grammar

open Reader

variable (self : Rules)

/-- The level of a binary operator, and whether it groups to the right. -/
def operatorLevel : String → Option (Nat × Bool)
  | "**" => some (14, true)
  | "*" | "/" | "%" => some (13, false)
  | "+" | "-" => some (12, false)
  | "<<" | ">>" | ">>>" => some (11, false)
  | "<" | ">" | "<=" | ">=" | "instanceof" | "in" => some (10, false)
  | "==" | "===" | "!=" | "!==" => some (9, false)
  | "&" => some (8, false)
  | "^" => some (7, false)
  | "|" => some (6, false)
  | "&&" => some (5, false)
  | "||" => some (4, false)
  | "??" => some (3, false)
  | _ => none

def typingLevel : Nat := 2

def compoundAssignments : List String :=
  ["+=", "-=", "*=", "/=", "%=", "^=", "&=", "|=", ">>=", ">>>=", "<<=", "**=", "&&=", "||=",
   "??="]

/-- Nodes that may stand before an equals sign. -/
def isTarget (t : Concrete) : Bool :=
  match t.kind? with
  | some .identifier | some .undefined | some .memberExpression | some .subscriptExpression
  | some .parenthesizedExpression | some .nonNullExpression | some .objectPattern
  | some .arrayPattern => true
  | _ => false

/-- Nodes that may stand before a compound assignment. -/
def isCompoundTarget (t : Concrete) : Bool :=
  match t.kind? with
  | some .identifier | some .memberExpression | some .subscriptExpression
  | some .parenthesizedExpression | some .nonNullExpression => true
  | _ => false

/-- Nodes that a template or an optional call may follow. -/
def isPrimary (t : Concrete) : Bool :=
  match t.kind? with
  | some .jsxElement | some .jsxSelfClosingElement | some .updateExpression => false
  | some (.other "instantiation_expression") => false
  | some (.other "unary_expression") => false
  | some (.other "new_expression") => false
  | some (.other "await_expression") => false
  | _ => true

/-- Whether an operand can begin with what follows. Words that are operators do not count. -/
def seesOperand : Reader Bool := do
  let word ← nextWord
  if !word.isEmpty then return !(["in", "instanceof", "as", "satisfies"].contains word)
  match ← nextOperator with
  | "(" | "[" | "\x7b" | "<" | "/" | "/=" | "+" | "-" | "!" | "~" | "++" | "--" | "@" | "#" =>
    return true
  | _ =>
    match ← nextChar with
    | some c => return c.isDigit || c == '\x22' || c == '\x27' || c == '\x60'
    | none => return false

/-- Whether the question mark of a conditional follows, and not another token that begins with
one. -/
def seesConditional : Reader Bool :=
  ahead fun cs =>
    match cs with
    | '?' :: '.' :: d :: _ => d.isDigit
    | '?' :: '?' :: _ => false
    | '?' :: rest =>
      match rest.dropWhile Text.isAsciiBlank with
      | ':' :: _ | ')' :: _ | ',' :: _ => false
      | '.' :: d :: _ => d.isDigit
      | _ => true
    | _ => false

/-! ### Arrow functions -/

/-- The body of an arrow function: a block, or an expression. Braces that begin with a labelled
value are read as an object if they can be. -/
def arrowBody (ending : Ending) (branch : Bool) : Reader Concrete := do
  if ← sees "\x7b" then
    let value := self (.expression ending branch)
    let block : Reader Concrete := do
      let body ← settled (self .block)
      if ← sees "=" then refuse else return body
    let labelled ← peek? (op "\x7b" >>= fun _ => anyWord .identifier >>= fun _ => op ":")
    if labelled.isSome then orElse value block else orElse block value
  else self (.expression ending branch)

def arrowHead : Reader (List Concrete) := do
  let generics ← typeParametersIf self
  let parameters ← if generics.isEmpty then settled (self .parameters) else self .parameters
  let result ← returnTypeIf self .closed
  return generics ++ [parameters] ++ result ++ [← exactly "=>"]

/-- An arrow function with parameters in parentheses. In the middle part of a conditional, a
result type is only read if the colon of the conditional follows the function. -/
def arrowFunction (ending : Ending) (branch : Bool) (before : List Concrete) (start : Nat) :
    Reader (Option Concrete) := do
  match ← optional (arrowHead self) with
  | none => return none
  | some head =>
    let body ← arrowBody self ending branch
    let arrow := Concrete.named .arrowFunction ⟨start, ← offset⟩ (before ++ head ++ [body])
    let hasResult := head.any fun t =>
      t.is (named "type_annotation") || t.is (named "asserts_annotation") ||
        t.is (named "type_predicate_annotation")
    if branch && hasResult && !(← sees ":") then return none
    return some arrow

def bareArrow (ending : Ending) (branch : Bool) (before : List Concrete) (start : Nat) :
    Reader Concrete := do
  let parameter ← anyWord .identifier
  let arrow ← exactly "=>"
  let body ← arrowBody self ending branch
  return .named .arrowFunction ⟨start, ← offset⟩
    (before ++ [parameter.withField .parameter, arrow, body])

/-- Runs the first reader; where it gives nothing, runs the second from the same place. -/
def orInstead (p : Reader (Option Concrete)) (q : Reader Concrete) : Reader Concrete :=
  orElse (do
    match ← p with
    | some t => return t
    | none => refuse) q

def seesBareArrow : Reader Bool := do
  return (← peek? (anyWord .identifier >>= fun _ => op "=>")).isSome

/-! ### Heads of operands -/

def parenthesizedOrArrow (ending : Ending) (branch : Bool) : Reader Concrete := do
  trivia
  let start ← offset
  orInstead (arrowFunction self ending branch [] start) (parenthesized self)

def markupOrArrow (ending : Ending) (branch : Bool) : Reader Concrete := do
  trivia
  let start ← offset
  orInstead (arrowFunction self ending branch [] start) (self .element)

/-- A literal in brackets or braces, or the pattern of an assignment. -/
def literalOrPattern (literal : Reader Concrete) : Reader Concrete :=
  orElse
    (do
      let t ← settled literal
      if ← sees "=" then refuse else return t)
    (do
      let t ← destructuring self
      if ← sees "=" then return t else refuse)

def regularExpression : Reader Concrete :=
  build (named "regex") do
    let opening ← exactly "/"
    match Lexeme.pattern 0 (← rest) with
    | 0 => refuse
    | n + 1 =>
      let body ← leaf (.named (named "regex_pattern")) (n + 1)
      if (← rest).head? != some '/' then refuse
      let closing ← leaf (.token "/") 1
      match Lexeme.run (fun c => 'a' ≤ c && c ≤ 'z') (← rest) with
      | 0 => return [opening, body, closing]
      | k + 1 => return [opening, body, closing, ← leaf (.named (named "regex_flags")) (k + 1)]

/-- A creation behind its keyword: what is created, type arguments and arguments. -/
def creation (ending : Ending) (mark : Concrete) : Reader Concrete := do
  let head : Reader Concrete := do
    match ← nextChar with
    | some '(' => parenthesized self
    | some '[' => array self
    | some '{' => object self
    | some '\x22' => string
    | some '\x27' => string
    | some '\x60' => templateString self
    | some '@' => classExpression self
    | _ =>
      match ← nextWord with
      | "this" => anyWord (named "this")
      | "super" => anyWord (named "super")
      | "function" => functionExpression self
      | "class" => classExpression self
      | "new" =>
        build (named "meta_property") do return [← keyword "new", ← op ".", ← keyword "target"]
      | "import" =>
        build (named "meta_property") do return [← keyword "import", ← op ".", ← keyword "meta"]
      | _ => boundName
  let target ← grow (fun t => do
    if ending != .closed && (← semicolonInserted ending) then return none
    match ← nextOperator with
    | "?." =>
      optional (extendNode .memberExpression t do
        return [← op "?.", (← memberName).withField .property])
    | _ => placeStep self t) (← head)
  extendNode (named "new_expression") mark do
    let types ← (do
      if (← nextChar) == some '<' then
        match ← optional (do
          let types ← typeArguments self
          if (← sees "(") || !(← seesOperand) then return types else refuse) with
        | some types => return [types]
        | none => return []
      return [])
    if ending != .closed && (← semicolonInserted ending) then return target :: types
    if ← sees "(" then return target :: types ++ [← arguments self]
    else return target :: types

def newExpression (ending : Ending) : Reader Concrete := do
  let isMeta ← peek? (keyword "new" >>= fun _ => op ".")
  if isMeta.isSome then
    build (named "meta_property") do return [← keyword "new", ← op ".", ← keyword "target"]
  else
    let canCreate ← peek? do
      let _ ← keyword "new"
      if ending != .closed && (← semicolonInserted ending) then refuse
      let c ← nextChar
      if (← seesOperand) && c != some '<' && c != some '/' && c != some '+' && c != some '-' &&
        c != some '!' && c != some '~' && c != some '#' then return () else refuse
    if canCreate.isSome then
      let mark ← keyword "new"
      creation self ending mark
    else anyWord .identifier

def asyncOperand (ending : Ending) (branch : Bool) : Reader Concrete := do
  trivia
  let start ← offset
  let splits ← peek? do
    let _ ← keyword "async"
    if ending != .closed && (← semicolonInserted ending) then return () else refuse
  if splits.isSome then anyWord .identifier
  else if ← seesBareArrow then bareArrow self ending branch [] start
  else
    let isFunction ← peek? (keyword "async" >>= fun _ => keyword "function")
    if isFunction.isSome then functionExpression self
    else
      let isBare ← peek? (keyword "async" >>= fun _ => anyWord .identifier >>= fun _ => op "=>")
      if isBare.isSome then
        let mark ← keyword "async"
        bareArrow self ending branch [mark] start
      else
        orInstead
          (do
            let mark ← keyword "async"
            if ← seesParameters then arrowFunction self ending branch [mark] start
            else return none)
          (anyWord .identifier)

def importOperand : Reader Concrete := do
  let isMeta ← peek? (keyword "import" >>= fun _ => op ".")
  if isMeta.isSome then
    build (named "meta_property") do return [← keyword "import", ← op ".", ← keyword "meta"]
  else
    let mark ← anyWord (named "import")
    if (← sees "(") || (← nextChar) == some '<' then return mark else refuse

def wordOperand (ending : Ending) (branch : Bool) : Reader Concrete := do
  match ← nextWord with
  | "this" => anyWord (named "this")
  | "super" => anyWord (named "super")
  | "true" => anyWord (named "true")
  | "false" => anyWord (named "false")
  | "null" => anyWord (named "null")
  | "undefined" => anyWord .undefined
  | "function" => functionExpression self
  | "class" => classExpression self
  | "import" => importOperand
  | "new" => newExpression self ending
  | "async" => asyncOperand self ending branch
  | _ =>
    trivia
    let start ← offset
    if ← seesBareArrow then bareArrow self ending branch [] start
    else wordExcept expressionKeywords .identifier

def operandHead (ending : Ending) (branch : Bool) : Reader Concrete := do
  match ← nextChar with
  | none => trivia; refuse
  | some '(' => parenthesizedOrArrow self ending branch
  | some '[' => literalOrPattern self (array self)
  | some '{' => literalOrPattern self (object self)
  | some '<' => markupOrArrow self ending branch
  | some '\x22' => string
  | some '\x27' => string
  | some '\x60' => templateString self
  | some '/' => regularExpression
  | some '@' => classExpression self
  | some '#' =>
    let name ← privateName
    if ← seesWord "in" then return name else refuse
  | some _ =>
    if (← nextWord).isEmpty then number else wordOperand self ending branch

/-! ### Suffixes -/

/-- An access or a call that gives `undefined` for a missing object. -/
def optionalStep (t : Concrete) : Reader Concrete := do
  let chain : Reader Concrete :=
    build (named "optional_chain") do return [← op "?."]
  match ← peek? (op "?." >>= fun _ => nextChar) with
  | some (some '[') =>
    extendNode .subscriptExpression t do
      return [← chain, ← op "[", ← expressions self .closed, ← op "]"]
  | some (some '(') =>
    if !isPrimary t then refuse
    extendNode .callExpression t do return [← op "?.", ← arguments self]
  | some (some '<') =>
    if !isPrimary t then refuse
    extendNode .callExpression t do return [← op "?.", ← typeArguments self, ← arguments self]
  | _ =>
    extendNode .memberExpression t do
      return [← chain, (← memberName).withField .property]

/-- Type arguments behind an operand: those of a call, or an instantiation where no operand
follows. -/
def genericStep (t : Concrete) : Reader (Option Concrete) :=
  optional do
    let types ← typeArguments self
    if ← sees "(" then
      extendNode .callExpression t do return [types, ← arguments self]
    else if ← seesOperand then refuse
    else extendNode (named "instantiation_expression") t do return [types]

def suffix (ending : Ending) (bang : Bool) (t : Concrete) : Reader (Option Concrete) := do
  if ending != .closed && (← semicolonInserted ending) then return none
  match ← nextOperator with
  | "." =>
    return some (← extendNode .memberExpression t do
      return [← op ".", (← memberName).withField .property])
  | "?." =>
    if ← seesConditional then return none else return some (← optionalStep self t)
  | "[" =>
    return some (← extendNode .subscriptExpression t do
      return [← op "[", ← expressions self .closed, ← op "]"])
  | "(" => return some (← extendNode .callExpression t do return [← arguments self])
  | "!" =>
    if bang then return some (← extendNode .nonNullExpression t do return [← op "!"])
    else return none
  | "++" =>
    return some (← extendNode .updateExpression (t.withField .argument) do
      return [(← op "++").withField .operator])
  | "--" =>
    return some (← extendNode .updateExpression (t.withField .argument) do
      return [(← op "--").withField .operator])
  | "<" => genericStep self t
  | _ =>
    if (← nextChar) == some '\x60' && (isPrimary t || t.is (named "new_expression")) then
      return some (← extendNode .callExpression t do return [← templateString self])
    else return none

def assignmentTo (ending : Ending) (branch : Bool) (t : Concrete) : Reader Concrete := do
  if ending != .closed && (← semicolonInserted ending) then return t
  let operator ← nextOperator
  if operator == "=" && isTarget t then
    extendNode .assignmentExpression (t.withField .left) do
      return [← op "=", ← self (.expression ending branch)]
  else if compoundAssignments.contains operator && isCompoundTarget t then
    extendNode .augmentedAssignmentExpression (t.withField .left) do
      return [(← op operator).withField .operator, ← self (.expression ending branch)]
  else return t

/-! ### Operands and operators -/

/-- A prefix operator with its operand, and the non-null marks that apply to both. -/
def prefixed (kind : Kind) (mark : Reader Concrete) (ending : Ending) (branch bang : Bool) :
    Reader Concrete := do
  let whole ← build kind do
    return [(← mark).withField .operator,
      (← self (.operand ending branch false)).withField .argument]
  if bang && (← sees "!") && !(ending != .closed && (← semicolonInserted ending)) then
    assignmentTo self ending branch (← grow (suffix self ending bang) whole)
  else return whole

def yieldExpression (ending : Ending) (branch : Bool) : Reader Concrete :=
  build (named "yield_expression") do
    let mark ← keyword "yield"
    if ending != .closed && (← semicolonInserted ending) then return [mark]
    if ← sees "*" then return [mark, ← op "*", ← self (.expression ending branch)]
    if ← seesOperand then return [mark, ← self (.expression ending branch)]
    return [mark]

def operand (ending : Ending) (branch bang : Bool) : Reader Concrete := do
  triviaAtStart
  let unary := prefixed self (named "unary_expression")
  match ← nextOperator with
  | "!" => unary (op "!") ending branch bang
  | "~" => unary (op "~") ending branch bang
  | "-" => unary (op "-") ending branch bang
  | "+" => unary (op "+") ending branch bang
  | "++" => prefixed self .updateExpression (op "++") ending branch bang
  | "--" => prefixed self .updateExpression (op "--") ending branch bang
  | _ =>
    match ← nextWord with
    | "typeof" => unary (keyword "typeof") ending branch bang
    | "void" => unary (keyword "void") ending branch bang
    | "delete" => unary (keyword "delete") ending branch bang
    | "await" =>
      build (named "await_expression") do
        return [← keyword "await", ← self (.operand ending branch bang)]
    | "yield" => yieldExpression self ending branch
    | "using" =>
      build .assignmentExpression do
        let mark ← keyword "using"
        let target ← grow (suffix self ending true) (← operandHead self ending branch)
        if isTarget target then
          return [mark, target.withField .left, ← op "=", ← self (.expression ending branch)]
        else refuse
    | _ =>
      assignmentTo self ending branch
        (← grow (suffix self ending bang) (← operandHead self ending branch))

/-- One operator and its right side, for operators of at least the given level. -/
def operationStep (level : Nat) (ending : Ending) (branch : Bool) (left : Concrete) :
    Reader (Option Concrete) := do
  if ending != .closed && (← semicolonInserted ending) then return none
  let symbol ← nextOperator
  let word ← nextWord
  let operator := if word.isEmpty then symbol else word
  match operatorLevel operator with
  | some (own, groupsRight) =>
    if own < level then return none
    let mark := if word.isEmpty then op operator else keyword operator
    let next := if groupsRight then own else own + 1
    return some (← extendNode .binaryExpression (left.withField .left) do
      return [(← mark).withField .operator, ← self (.operation next ending branch)])
  | none =>
    if typingLevel < level then return none
    let typed : Reader Concrete := do
      if (← seesWord "const") && operator == "as" then keyword "const"
      else self (.type (if ending == .closed then .closed else .expression))
    match operator with
    | "as" =>
      return some (← extendNode (named "as_expression") left do return [← keyword "as", ← typed])
    | "satisfies" =>
      return some (← extendNode (named "satisfies_expression") left do
        return [← keyword "satisfies", ← typed])
    | _ => return none

/-- Operands joined by operators of at least the given level. -/
def operation (level : Nat) (ending : Ending) (branch : Bool) : Reader Concrete := do
  grow (operationStep self level ending branch) (← self (.operand ending branch true))

def expression (ending : Ending) (branch : Bool) : Reader Concrete := do
  let condition ← operation self typingLevel ending branch
  if ending != .closed && (← semicolonInserted ending) then return condition
  if ← seesConditional then
    extendNode .ternaryExpression condition do
      return [← exactly "?", ← self (.expression .closed true), ← op ":",
        ← self (.expression ending branch)]
  else return condition

end SubmissionGrader.Syntax.Grammar
