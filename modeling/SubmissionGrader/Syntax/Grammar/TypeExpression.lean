import SubmissionGrader.Syntax.Grammar.Binding

/-!
# Types

Type annotations, generic parameters, and the members of object types and interfaces.
-/

namespace SubmissionGrader.Syntax.Grammar

open Reader

variable (self : Rules)

/-- Words that are no names of types. -/
def typeKeywords : List String :=
  ["typeof", "keyof", "unique", "readonly", "infer", "new", "abstract", "this", "true", "false",
   "null", "undefined", "void", "any", "number", "boolean", "string", "symbol", "unknown",
   "never", "object", "const", "import"]

/-- The built-in types that are single words. -/
def predefinedTypes : List String :=
  ["any", "number", "boolean", "string", "symbol", "void", "unknown", "never", "object"]

def typeParameter : Reader Concrete :=
  build (named "type_parameter") do
    let modifier ← keywordIf "const"
    let name ← anyWord .typeIdentifier
    let bound ← (do
      if (← seesWord "extends") || (← sees ":") then
        return [← build (named "constraint") do
          let mark ← if ← sees ":" then op ":" else keyword "extends"
          return [mark, ← self (.type .closed)]]
      return [])
    let value ← (do
      if (← nextChar) == some '=' then
        return [← build (named "default_type") do
          return [← exactly "=", ← self (.type .closed)]]
      return [])
    return modifier ++ [name.withField .name] ++ bound ++ value

def typeParameters : Reader Concrete :=
  build (named "type_parameters") do
    let opening ← exactly "<"
    let first ← typeParameter self
    let others ← (do
      if ← sees "," then
        let comma ← op ","
        let items ← separatedUntil seesTypeClose do return [← typeParameter self]
        return comma :: items
      return [])
    return opening :: first :: others ++ [← exactly ">"]

def typeParametersIf : Reader (List Concrete) := do
  if (← nextChar) == some '<' then return [← typeParameters self] else return []

def typePredicate (ending : Ending) : Reader Concrete :=
  build (named "type_predicate") do
    let name ← if ← seesWord "this" then anyWord (named "this") else anyWord .identifier
    return [name.withField .name, ← keyword "is", ← self (.type ending)]

/-- Whether a name and the word `is` follow. -/
def seesPredicate : Reader Bool := do
  return (← peek? do
    let _ ← anyWord .identifier
    keyword "is").isSome

def asserts (ending : Ending) : Reader Concrete :=
  build (named "asserts") do
    let mark ← keyword "asserts"
    if ← seesPredicate then return [mark, ← typePredicate self ending]
    else if ← seesWord "this" then return [mark, ← anyWord (named "this")]
    else return [mark, ← anyWord .identifier]

/-- Whether an assertion follows, and not a type of that name. -/
def seesAsserts : Reader Bool := do
  return (← peek? do
    let _ ← keyword "asserts"
    anyWord .identifier).isSome

def returnTypeIf (ending : Ending) : Reader (List Concrete) := do
  if ← sees ":" then
    let marked (kind : String) (p : Reader Concrete) : Reader (List Concrete) := do
      return [← build (named kind) do return [← op ":", ← p]]
    match ← peek? (op ":" >>= fun _ => seesAsserts) with
    | some true => marked "asserts_annotation" (asserts self ending)
    | _ =>
      match ← peek? (op ":" >>= fun _ => seesPredicate) with
      | some true => marked "type_predicate_annotation" (typePredicate self ending)
      | _ => marked "type_annotation" (self (.type ending))
  else return []

/-- Generic parameters, parameters and result type. -/
def callSignature (ending : Ending) : Reader (List Concrete) := do
  return (← typeParametersIf self) ++ [← self .parameters] ++ (← returnTypeIf self ending)

def functionResult (ending : Ending) : Reader Concrete := do
  if ← seesAsserts then asserts self ending
  else if ← seesPredicate then typePredicate self ending
  else self (.type ending)

def genericFunctionType (ending : Ending) : Reader Concrete :=
  build (named "function_type") do
    return [← typeParameters self, ← self .parameters, ← op "=>", ← functionResult self ending]

def constructorType (ending : Ending) : Reader Concrete :=
  build (named "constructor_type") do
    return (← keywordIf "abstract") ++ [← keyword "new"] ++ (← typeParametersIf self) ++
      [← self .parameters, ← op "=>", ← self (.type ending)]

def typeQuery (ending : Ending) : Reader Concrete :=
  build (named "type_query") do
    let mark ← keyword "typeof"
    let first ← (do
      if ← seesWord "this" then anyWord (named "this")
      else if ← seesWord "import" then anyWord (named "import")
      else anyWord .identifier)
    let target ← grow (fun t => do
      if ending != .closed && (← semicolonInserted ending) then return none
      match ← nextOperator with
      | "." => return some (← extendNode .memberExpression t do
          return [← op ".", (← memberName).withField .property])
      | "?." => return some (← extendNode .memberExpression t do
          return [← op "?.", (← memberName).withField .property])
      | "[" =>
        optional (extendNode .subscriptExpression t do
          let opening ← op "["
          let index ← match ← nextChar with
            | some '\x22' => string
            | some '\x27' => string
            | _ => orElse number (do
                if predefinedTypes.contains (← nextWord) then anyWord (named "predefined_type")
                else refuse)
          return [opening, index, ← op "]"])
      | "(" => return some (← extendNode .callExpression t do return [← arguments self])
      | "<" =>
        return some (← extendNode (named "instantiation_expression") t do
          return [← typeArguments self])
      | _ => return none) first
    return [mark, target]

def importedType : Reader Concrete := do
  let first ← anyWord (named "import")
  let whole ← grow (fun t => do
    match ← nextOperator with
    | "." => return some (← extendNode .memberExpression t do
        return [← op ".", (← memberName).withField .property])
    | "(" => return some (← extendNode .callExpression t do return [← arguments self])
    | _ => return none) first
  if whole.is (named "import") then refuse else return whole

def namedType : Reader Concrete := do
  let word ← nextWord
  if typeKeywords.contains word then
    trivia
    refuse
  let name ← (do
    match ← peek? (anyWord .identifier >>= fun _ => op ".") with
    | none => anyWord .typeIdentifier
    | some _ =>
      let whole ← dotted (named "nested_type_identifier")
      match whole with
      | .node head children =>
        return .node head (children.map fun c =>
          match c with
          | .node h cs =>
            if h.field == some .property then
              .node { h with symbol := .named .typeIdentifier, field := some .name } cs
            else if c.is .memberExpression then
              .node { h with symbol := .named (named "nested_identifier") } cs
            else c))
  if (← nextChar) == some '<' then
    extendNode (named "generic_type") name do return [← typeArguments self]
  else return name

/-- A member of a tuple type: a type, an optional or rest type, or a named member. -/
def tupleMember : Reader (List Concrete) := do
  let isNamed ← peek? do
    if ← sees "..." then let _ ← op "..."
    let _ ← anyWord .identifier
    let _ ← opIf "?"
    op ":"
  if isNamed.isSome then
    trivia
    let start ← offset
    let name ← if ← sees "..." then
        build .restPattern do return [← op "...", ← anyWord .identifier]
      else anyWord .identifier
    let mark ← opIf "?"
    let type ← typeAnnotation self .closed
    let kind := if mark.isEmpty then Kind.requiredParameter else Kind.optionalParameter
    return [.named kind ⟨start, ← offset⟩ ([name.withField .name] ++ mark ++ [type])]
  else if ← sees "..." then
    return [← build (named "rest_type") do return [← op "...", ← self (.type .closed)]]
  else
    let type ← self (.type .closed)
    if ← sees "?" then return [← extendNode (named "optional_type") type do return [← op "?"]]
    else return [type]

def indexedType (ending : Ending) : Reader Concrete := do
  match ← nextOperator with
  | "-" => build (named "omitting_type_annotation") do
      return [← exactly "-?:", ← self (.type ending)]
  | "+" => build (named "adding_type_annotation") do
      return [← exactly "+?:", ← self (.type ending)]
  | "?" => build (named "opting_type_annotation") do
      return [← exactly "?:", ← self (.type ending)]
  | _ => typeAnnotation self ending

def indexSignature (ending : Ending) : Reader Concrete :=
  build (named "index_signature") do
    let sign ← (do
      match ← nextOperator with
      | "-" => return [← op "-", ← keyword "readonly"]
      | "+" => return [← op "+", ← keyword "readonly"]
      | _ => keywordIf "readonly")
    let opening ← op "["
    let name ← anyWord .identifier
    let key ← (do
      if ← seesWord "in" then
        match name with
        | .node head children =>
          let variable_ := Concrete.node { head with symbol := .named .typeIdentifier } children
          return [← extendNode (named "mapped_type_clause") (variable_.withField .name) do
            let source := [← keyword "in", ← self (.type .closed)]
            if ← seesWord "as" then
              return source ++ [← keyword "as", ← self (.type .closed)]
            else return source]
      else return [name.withField .name, ← op ":", ← self (.type .closed)])
    return sign ++ [opening] ++ key ++ [← op "]", ← indexedType self ending]

/-- Whether an index signature follows, and not a property with a computed name. -/
def seesIndexSignature : Reader Bool := do
  return (← peek? do
    match ← nextOperator with
    | "-" => let _ ← op "-"
    | "+" => let _ ← op "+"
    | _ => pure ()
    let _ ← keywordIf "readonly"
    let _ ← op "["
    let _ ← anyWord .identifier
    if (← seesWord "in") || (← sees ":") then return () else refuse).isSome

/-- The words that can stand in front of the name of a member, with their place in the order. -/
def modifierRank : String → Option Nat
  | "declare" => some 1
  | "public" | "private" | "protected" => some 1
  | "static" => some 2
  | "abstract" => some 2
  | "override" => some 3
  | "readonly" => some 4
  | "accessor" => some 4
  | "async" => some 5
  | "get" | "set" => some 6
  | _ => none

def seesMemberName : Reader Bool := do
  match ← nextChar with
  | none => return false
  | some c =>
    return !(← nextWord).isEmpty || c == '#' || c == '\x22' || c == '\x27' || c == '[' ||
      c == '*' || c.isDigit

/-- One modifier of a member: a word in front of a name. A line end behind it makes it a name. -/
def memberModifier (ending : Ending) (last : Nat) : Reader (Option (Nat × Concrete)) := do
  let word ← nextWord
  match modifierRank word with
  | none => return none
  | some rank =>
    if rank < last then return none
    let modifies ← peek? do
      let _ ← keyword word
      if ending != .closed && (← semicolonInserted ending) then refuse
      if ← seesMemberName then return () else refuse
    if modifies.isNone then return none
    match word with
    | "public" | "private" | "protected" =>
      return some (rank, ← build (named "accessibility_modifier") do return [← keyword word])
    | "override" =>
      return some (rank, ← build (named "override_modifier") do return [← keyword word])
    | _ => return some (rank, ← keyword word)

/-- The modifiers of a member, and the star of a generator. -/
def memberModifiers (ending : Ending) : Reader (List Concrete) := do
  let (_, found) ← grow (fun (last, found) => do
    match ← memberModifier ending last with
    | none => return none
    | some (rank, modifier) => return some (rank, found ++ [modifier])) (0, [])
  return found ++ (← opIf "*")

def seesParameters : Reader Bool := do
  let c ← nextChar
  return c == some '(' || c == some '<'

def typeMember : Reader Concrete := do
  if ← seesParameters then
    build (named "call_signature") do callSignature self .statement
  else
    let constructs ← peek? do
      let _ ← keyword "new"
      if ← seesParameters then return () else refuse
    if constructs.isSome then
      build (named "construct_signature") do
        return [← keyword "new"] ++ (← typeParametersIf self) ++ [← self .parameters] ++
          (← typeAnnotationIf self .statement)
    else if ← seesIndexSignature then indexSignature self .statement
    else
      trivia
      let start ← offset
      let modifiers ← memberModifiers .statement
      let name ← propertyName self
      let mark ← opIf "?"
      if ← seesParameters then
        let signature ← callSignature self .statement
        return .named (named "method_signature") ⟨start, ← offset⟩
          (modifiers ++ [name.withField .name] ++ mark ++ signature)
      else
        let type ← typeAnnotationIf self .statement
        return .named (named "property_signature") ⟨start, ← offset⟩
          (modifiers ++ [name.withField .name] ++ mark ++ type)

def objectType (kind : Kind) : Reader Concrete :=
  build kind do
    let opening ← op "\x7b"
    let first ← (do
      if ← sees "," then return [← op ","]
      if ← sees ";" then return [← op ";"]
      return [])
    let parts ← many do
      if ← sees "\x7d" then return none
      let member ← typeMember self
      if ← sees "," then return some [member, ← op ","]
      if ← semicolonInserted .statement then return some [member]
      return some [member, ← op ";"]
    return opening :: first ++ parts.flatten ++ [← op "\x7d"]

def primaryType (ending : Ending) : Reader Concrete := do
  match ← nextChar with
  | none => trivia; refuse
  | some '{' => objectType self (named "object_type")
  | some '[' =>
    build (named "tuple_type") do
      let opening ← op "["
      let items ← separated "]" (tupleMember self)
      return opening :: items ++ [← op "]"]
  | some '(' =>
    trivia
    let start ← offset
    match ← optional (do return [← self .parameters, ← op "=>"]) with
    | some head =>
      let result ← functionResult self ending
      return .named (named "function_type") ⟨start, ← offset⟩ (head ++ [result])
    | none =>
      build (named "parenthesized_type") do
        return [← op "(", ← self (.type .closed), ← op ")"]
  | some '<' => genericFunctionType self ending
  | some '\x22' => build (named "literal_type") do return [← string]
  | some '\x27' => build (named "literal_type") do return [← string]
  | some '\x60' =>
    template (named "template_literal_type") do
      build (named "template_type") do
        return [← exactly "$\x7b", ← self (.type .closed), ← op "\x7d"]
  | some '*' => build (named "existential_type") do return [← op "*"]
  | some '?' => build (named "flow_maybe_type") do return [← op "?", ← self (.type ending)]
  | some '-' =>
    build (named "literal_type") do
      return [← build (named "unary_expression") do return [← op "-", ← number]]
  | some '+' =>
    build (named "literal_type") do
      return [← build (named "unary_expression") do return [← op "+", ← number]]
  | some _ =>
    let word ← nextWord
    if word.isEmpty then build (named "literal_type") do return [← number]
    else if predefinedTypes.contains word then
      build (named "predefined_type") do return [← keyword word]
    else
      match word with
      | "unique" =>
        build (named "predefined_type") do return [← keyword "unique", ← keyword "symbol"]
      | "typeof" => typeQuery self ending
      | "keyof" =>
        build (named "index_type_query") do return [← keyword "keyof", ← self (.typeOperand ending)]
      | "readonly" =>
        build (named "readonly_type") do return [← keyword "readonly", ← self (.type ending)]
      | "infer" =>
        build (named "infer_type") do return [← keyword "infer", ← anyWord .typeIdentifier]
      | "new" => constructorType self ending
      | "abstract" => constructorType self ending
      | "this" => anyWord (named "this_type")
      | "true" => build (named "literal_type") do return [← anyWord (named "true")]
      | "false" => build (named "literal_type") do return [← anyWord (named "false")]
      | "null" => build (named "literal_type") do return [← anyWord (named "null")]
      | "undefined" => build (named "literal_type") do return [← anyWord .undefined]
      | "const" => keyword "const"
      | "import" => importedType self
      | _ => namedType self

/-- A primary type with the brackets behind it. -/
def indexedPrimary (ending : Ending) : Reader Concrete := do
  let first ← primaryType self ending
  grow (fun t => do
    if ending != .closed && (← semicolonInserted ending) then return none
    if ← sees "[" then
      let isArray ← peek? (op "[" >>= fun _ => op "]")
      if isArray.isSome then
        return some (← extendNode (named "array_type") t do return [← op "[", ← op "]"])
      else
        return some (← extendNode (named "lookup_type") t do
          return [← op "[", ← self (.type .closed), ← op "]"])
    else return none) first

/-- Types joined by an operator that may also stand in front of the first. -/
def joinedTypes (operator : String) (kind : Kind) (part : Reader Concrete) : Reader Concrete := do
  let first ← (do
    if (← nextChar) == some ((operator.toList.head?).getD ' ') then
      build kind do return [← exactly operator, ← part]
    else part)
  grow (fun t => do
    if ← sees operator then
      return some (← extendNode kind t do return [← op operator, ← part])
    else return none) first

def type (ending : Ending) : Reader Concrete := do
  let union ← joinedTypes "|" (named "union_type")
    (joinedTypes "&" (named "intersection_type") (indexedPrimary self ending))
  if ending != .closed && (← semicolonInserted ending) then return union
  if ← seesWord "extends" then
    extendNode (named "conditional_type") (union.withField .left) do
      let mark ← keyword "extends"
      let right ← joinedTypes "|" (named "union_type")
        (joinedTypes "&" (named "intersection_type") (indexedPrimary self .closed))
      return [mark, right, ← op "?", ← self (.type .closed), ← op ":", ← self (.type ending)]
  else return union

end SubmissionGrader.Syntax.Grammar
