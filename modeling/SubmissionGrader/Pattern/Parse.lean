import SubmissionGrader.Pattern.Term
import SubmissionGrader.Text.Alphanumeric
import SubmissionGrader.Text.Blank
import SubmissionGrader.Unicode.Property

/-!
# Parsing patterns

`Term.ofText?` reads a pattern, or refuses it. White space and comments are skipped between the
parts of a pattern as long as the flag for that is on.
-/

namespace SubmissionGrader.Pattern

open Text

/-- What is still to be read, whether space is skipped, and the names of groups so far. -/
structure Remaining where
  text : List Char
  skipsSpace : Bool
  names : List String

abbrev Parse := StateT Remaining Option

namespace Parse

/-- A text without the white space and comments in front. A comment ends with its line. -/
def withoutSpace (inComment : Bool) : List Char → List Char
  | [] => []
  | c :: rest =>
    if inComment then withoutSpace (c != '\n') rest
    else if isBlank c then withoutSpace false rest
    else if c == '#' then withoutSpace true rest
    else c :: rest

def peek : Parse (Option Char) := do return (← get).text.head?

def peekSecond : Parse (Option Char) := do return (← get).text[1]?

/-- The character behind the next one, white space apart. -/
def peekSecondMark : Parse (Option Char) := do
  let state ← get
  let behind := state.text.drop 1
  if state.skipsSpace then
    let behind := dropBlanks behind
    return (if behind.head? == some '#' then dropBlanks (behind.drop 1) else behind).head?
  else return behind.head?

def refuse {α : Type} : Parse α := fun _ => none

def require (condition : Bool) : Parse Unit := if condition then pure () else refuse

def current : Parse Char := do
  match ← peek with
  | some c => return c
  | none => refuse

def pass : Parse Unit := modify fun s => { s with text := s.text.drop 1 }

def skip : Parse Unit :=
  modify fun s => if s.skipsSpace then { s with text := withoutSpace false s.text } else s

def passAndSkip : Parse Unit := do
  pass
  skip

def passIf (text : String) : Parse Bool := do
  let state ← get
  if text.toList.isPrefixOf state.text then
    set { state with text := state.text.drop text.length }
    return true
  else return false

/-- A bound for loops: more than the number of characters left. -/
def bound : Parse Nat := do return (← get).text.length + 1

def takeWhile (accepts : Char → Bool) (next : Parse Unit) : Nat → Parse (List Char)
  | 0 => return []
  | fuel + 1 => do
    match ← peek with
    | some c =>
      if accepts c then
        next
        return c :: (← takeWhile accepts next fuel)
      else return []
    | none => return []

/-- A decimal number of 32 bits, with white space around it. -/
def decimal : Parse Nat := do
  discard <| takeWhile isBlank pass (← bound)
  let digits ← takeWhile Char.isDigit passAndSkip (← bound)
  discard <| takeWhile isBlank passAndSkip (← bound)
  require !digits.isEmpty
  let n := digits.foldl (fun n c => 10 * n + (c.toNat - '0'.toNat)) 0
  require (n < UInt32.size)
  return n

/-! ### Escapes -/

def hexDigit? (c : Char) : Option Nat :=
  if c.isDigit then some (c.toNat - '0'.toNat)
  else if 'a' ≤ c && c ≤ 'f' then some (c.toNat - 'a'.toNat + 10)
  else if 'A' ≤ c && c ≤ 'F' then some (c.toNat - 'A'.toNat + 10)
  else none

def characterOfHex (digits : List Char) : Parse Char := do
  let some values := digits.mapM hexDigit? | refuse
  let n := values.foldl (fun n d => 16 * n + d) 0
  require (n < 0xD800 || 0xE000 ≤ n && n ≤ maxCodePoint)
  return Char.ofNat n

def fixedDigits : Nat → Parse (List Char)
  | 0 => return []
  | n + 1 => do
    let c ← current
    require (hexDigit? c).isSome
    passAndSkip
    return c :: (← fixedDigits n)

/-- A character given by its number: in braces, or by as many digits as the letter asks for. -/
def hexadecimal (letter : Char) : Parse Literal := do
  passAndSkip
  if (← current) == '\x7b' then
    passAndSkip
    let digits ← takeWhile (· != '\x7d') passAndSkip (← bound)
    require ((← current) == '\x7d' && !digits.isEmpty)
    passAndSkip
    return ⟨← characterOfHex digits, false⟩
  else
    let digits ← fixedDigits (if letter == 'x' then 2 else if letter == 'u' then 4 else 8)
    return ⟨← characterOfHex digits, letter == 'x'⟩

/-- The text before the first occurrence of a separator, and the text behind it. -/
def cutAt? (separator : List Char) : List Char → Option (List Char × List Char)
  | [] => none
  | c :: rest =>
    if separator.isPrefixOf (c :: rest) then some ([], (c :: rest).drop separator.length)
    else (cutAt? separator rest).map fun (before, behind) => (c :: before, behind)

def propertyOfText (text : List Char) : Bool × Property :=
  match cutAt? ['!', '='] text with
  | some (kind, value) => (true, .valued (String.ofList kind) (String.ofList value))
  | none =>
    match (cutAt? [':'] text).or (cutAt? ['='] text) with
    | some (kind, value) => (false, .valued (String.ofList kind) (String.ofList value))
    | none => (false, .named (String.ofList text))

def property : Parse (Bool × Property) := do
  passAndSkip
  let c ← current
  if c == '\x7b' then
    passAndSkip
    let text ← takeWhile (· != '\x7d') passAndSkip (← bound)
    require ((← current) == '\x7d')
    pass
    return propertyOfText text
  else
    require (c != '\\')
    passAndSkip
    return (false, .named c.toString)

def namedBoundary? : String → Option Assertion
  | "start" => some .wordStart
  | "end" => some .wordEnd
  | "start-half" => some .wordStartHalf
  | "end-half" => some .wordEndHalf
  | _ => none

/-- What a word boundary is, by the name in braces behind it. Braces without a name are left
alone. -/
def boundary : Parse Assertion := do
  if (← peek) == some '\x7b' then
    let before ← get
    passAndSkip
    let isNameChar (c : Char) : Bool := c.isAlpha || c == '-'
    if isNameChar (← current) then
      let name ← takeWhile isNameChar passAndSkip (← bound)
      require ((← current) == '\x7d')
      pass
      match namedBoundary? (String.ofList name) with
      | some kind => return kind
      | none => refuse
    else
      set before
      return .wordBoundary
  else return .wordBoundary

def isMeta (c : Char) : Bool := "\\.+*?()|[]\x7b\x7d^$#&-~".toList.contains c

/-- Whether a backslash may stand before a character that means itself. -/
def isEscapable (c : Char) : Bool :=
  isMeta c || (c.toNat < 128 && !c.isAlphanum && c != '<' && c != '>')

def control? : Char → Option Char
  | 'a' => some '\x07'
  | 'f' => some '\x0c'
  | 't' => some '\t'
  | 'n' => some '\n'
  | 'r' => some '\r'
  | 'v' => some '\x0b'
  | _ => none

def place? : Char → Option Assertion
  | 'A' => some .textStart
  | 'z' => some .textEnd
  | 'B' => some .noWordBoundary
  | '<' => some .wordStart
  | '>' => some .wordEnd
  | _ => none

def letterClass? : Char → Option (Bool × LetterClass)
  | 'd' => some (false, .digit)
  | 'D' => some (true, .digit)
  | 's' => some (false, .space)
  | 'S' => some (true, .space)
  | 'w' => some (false, .word)
  | 'W' => some (true, .word)
  | _ => none

def escape : Parse Term := do
  pass
  let c ← current
  if c == 'x' || c == 'u' || c == 'U' then return .literal (← hexadecimal c)
  else if c == 'p' || c == 'P' then
    let (denied, query) ← property
    return .property ((c == 'P') != denied) query
  else
    pass
    match letterClass? c with
    | some (negated, kind) => return .letter negated kind
    | none =>
      if isEscapable c then return .literal ⟨c, false⟩
      else if c == 'b' then return .assertion (← boundary)
      else
        match control? c, place? c with
        | some control, _ => return .literal ⟨control, false⟩
        | none, some place => return .assertion place
        | none, none => refuse

/-! ### Bracketed classes -/

def asciiClass? : String → Option Ranges
  | "alnum" => some [(48, 57), (65, 90), (97, 122)]
  | "alpha" => some [(65, 90), (97, 122)]
  | "ascii" => some [(0, 127)]
  | "blank" => some [(9, 9), (32, 32)]
  | "cntrl" => some [(0, 31), (127, 127)]
  | "digit" => some [(48, 57)]
  | "graph" => some [(33, 126)]
  | "lower" => some [(97, 122)]
  | "print" => some [(32, 126)]
  | "punct" => some [(33, 47), (58, 64), (91, 96), (123, 126)]
  | "space" => some [(9, 13), (32, 32)]
  | "upper" => some [(65, 90)]
  | "word" => some [(48, 57), (65, 90), (95, 95), (97, 122)]
  | "xdigit" => some [(48, 57), (65, 70), (97, 102)]
  | _ => none

def asciiItem? : List Char → Option (ClassItem × List Char)
  | '[' :: ':' :: rest =>
    let (negated, rest) := match rest with
      | '^' :: rest => (true, rest)
      | rest => (false, rest)
    match rest.dropWhile (· != ':') with
    | ':' :: ']' :: behind =>
      (asciiClass? (String.ofList (rest.takeWhile (· != ':')))).map fun members =>
        (.ascii negated members, behind)
    | _ => none
  | _ => none

/-- A term as a member of a class. -/
def itemOfTerm : Term → Parse ClassItem
  | .literal value => return .literal value
  | .letter negated kind => return .letter negated kind
  | .property negated query => return .property negated query
  | _ => refuse

def endOfTerm : Term → Parse Literal
  | .literal value => return value
  | _ => refuse

def classTerm : Parse Term := do
  let c ← current
  if c == '\\' then escape
  else
    pass
    return .literal ⟨c, false⟩

def classRange : Parse ClassItem := do
  let first ← classTerm
  skip
  let c ← current
  let second ← peekSecondMark
  if c != '-' || second == some ']' || second == some '-' then itemOfTerm first
  else
    passAndSkip
    let last ← classTerm
    let low ← endOfTerm first
    let high ← endOfTerm last
    require (low.character ≤ high.character)
    return .range low high

/-- The hyphens at the beginning of a class, which stand for themselves. -/
def leadingHyphens : Nat → Parse (List ClassItem)
  | 0 => return []
  | fuel + 1 => do
    if (← current) == '-' then
      passAndSkip
      return .literal ⟨'-', false⟩ :: (← leadingHyphens fuel)
    else return []

/-- What stands behind an opening bracket up to the first member that needs no care: whether the
class is negated, and the members that stand for themselves only here. -/
def classOpening : Parse (Bool × List ClassItem) := do
  passAndSkip
  let negated := (← current) == '^'
  if negated then passAndSkip
  let hyphens ← leadingHyphens (← bound)
  if hyphens.isEmpty && (← current) == ']' then
    passAndSkip
    discard current
    return (negated, [.literal ⟨']', false⟩])
  else
    discard current
    return (negated, hyphens)

/-- The operator between parts of a class that two equal characters stand for. -/
def setOperator? (c : Char) : Option SetOperator :=
  if c == '&' then some .intersection
  else if c == '-' then some .difference
  else if c == '~' then some .symmetricDifference
  else none

/-- A part of a class joined to the parts before it. -/
def joinSet (left : Option (SetOperator × ClassSet)) (items : List ClassItem) : ClassSet :=
  match left with
  | some (operator, set) => .operation operator set (.items items.reverse)
  | none => .items items.reverse

/-- The inside of a class up to and with its closing bracket. The members of the current part are
given in reverse, with the parts before them. -/
def classBody : Nat → Option (SetOperator × ClassSet) → List ClassItem → Parse ClassSet
  | 0, _, _ => refuse
  | fuel + 1, left, items => do
    skip
    let c ← current
    if c == '[' then
      let state ← get
      match asciiItem? state.text with
      | some (item, behind) =>
        set { state with text := behind }
        classBody fuel left (item :: items)
      | none =>
        let (negated, opening) ← classOpening
        let inner ← classBody fuel none opening.reverse
        classBody fuel left (.bracketed negated inner :: items)
    else if c == ']' then
      pass
      return joinSet left items
    else
      match setOperator? c with
      | some operator =>
        if (← peekSecond) == some c then
          pass
          pass
          classBody fuel (some (operator, joinSet left items)) []
        else classBody fuel left ((← classRange) :: items)
      | none => classBody fuel left ((← classRange) :: items)

def bracketedClass : Parse Term := do
  let (negated, opening) ← classOpening
  return .bracketed negated (← classBody (← bound) none opening.reverse)

/-! ### Groups -/

def flag? : Char → Option Flag
  | 'i' => some .ignoreCase
  | 'm' => some .multiLine
  | 's' => some .dotMatchesLineFeed
  | 'U' => some .swapGreed
  | 'u' => some .unicode
  | 'R' => some .crlf
  | 'x' => some .ignoreSpace
  | _ => none

/-- The changes that a list of letters makes: those behind a hyphen switch off. No flag comes
twice, and a hyphen comes once at most and not last. -/
def flagChanges? (on : Bool) : List Char → Option FlagChanges
  | [] => some []
  | '-' :: rest => if on && !rest.isEmpty then flagChanges? false rest else none
  | c :: rest => do
    let flag ← flag? c
    let changes ← flagChanges? on rest
    if changes.any (·.1 == flag) then none else some ((flag, on) :: changes)

def groupName : Parse Unit := do
  let name ← takeWhile (· != '>') pass (← bound)
  require ((← peek) == some '>')
  pass
  match name with
  | [] => refuse
  | c :: rest =>
    require (c == '_' || Unicode.alphabetic.has c)
    require (rest.all fun c => c == '_' || c == '.' || c == '[' || c == ']' || isAlphanumeric c)
    let state ← get
    let name := String.ofList name
    require !(state.names.contains name)
    set { state with names := name :: state.names }

inductive GroupOpening where
  | capture
  | group (changes : FlagChanges)
  | flags (changes : FlagChanges)

def groupOpening : Parse GroupOpening := do
  pass
  skip
  for look in ["?=", "?!", "?<=", "?<!"] do
    if ← passIf look then refuse
  if (← passIf "?P<") || (← passIf "?<") then
    groupName
    return .capture
  else if ← passIf "?" then
    let letters ← takeWhile (fun c => c != ':' && c != ')') pass (← bound)
    let ending ← current
    pass
    let some changes := flagChanges? true letters | refuse
    if ending == ')' then
      require !changes.isEmpty
      return .flags changes
    else return .group changes
  else return .capture

/-- Whether white space is skipped after some changes. -/
def skipsSpaceAfter (changes : FlagChanges) (before : Bool) : Bool :=
  match changes.find? (·.1 == .ignoreSpace) with
  | some (_, on) => on
  | none => before

/-! ### Patterns -/

/-- The repetition of the last part, with a question mark behind it to make it lazy. The parts are
given in reverse. -/
def repeatLast (least : Nat) (most : Option Nat) (parts : List Term) : Parse (List Term) := do
  let greedy := (← peek) != some '?'
  if !greedy then pass
  match parts with
  | [] | .empty :: _ | .flags _ :: _ => refuse
  | part :: rest => return .repetition least most greedy part :: rest

/-- The numbers of a counted repetition, braces included. -/
def counts : Parse (Nat × Option Nat) := do
  passAndSkip
  discard current
  let least ← decimal
  let c ← current
  let most ← if c == ',' then do
      passAndSkip
      if (← current) == '\x7d' then pure none else some <$> decimal
    else pure (some least)
  require ((← current) == '\x7d')
  passAndSkip
  require (most.all (least ≤ ·))
  return (least, most)

/-- Branches and the parts of the last one as a term, all given in reverse. -/
def finish (branches : List Term) (parts : List Term) : Term :=
  let last := Term.ofParts parts.reverse
  if branches.isEmpty then last else .alternation (branches.reverse ++ [last])

/-- The rest of a pattern or of the inside of a group, up to its end. The branches and parts
before are given in reverse. -/
def pattern : Nat → List Term → List Term → Parse Term
  | 0, _, _ => refuse
  | fuel + 1, branches, parts => do
    skip
    match ← peek with
    | none => return finish branches parts
    | some c =>
      if c == ')' then return finish branches parts
      else if c == '(' then
        let before := (← get).skipsSpace
        match ← groupOpening with
        | .flags changes =>
          modify fun s => { s with skipsSpace := skipsSpaceAfter changes before }
          pattern fuel branches (.flags changes :: parts)
        | .capture =>
          let body ← pattern fuel [] []
          require (← passIf ")")
          modify fun s => { s with skipsSpace := before }
          pattern fuel branches (.capture body :: parts)
        | .group changes =>
          modify fun s => { s with skipsSpace := skipsSpaceAfter changes before }
          let body ← pattern fuel [] []
          require (← passIf ")")
          modify fun s => { s with skipsSpace := before }
          pattern fuel branches (.group changes body :: parts)
      else if c == '|' then
        pass
        pattern fuel (Term.ofParts parts.reverse :: branches) []
      else if c == '[' then pattern fuel branches ((← bracketedClass) :: parts)
      else if c == '?' then
        pass
        pattern fuel branches (← repeatLast 0 (some 1) parts)
      else if c == '*' then
        pass
        pattern fuel branches (← repeatLast 0 none parts)
      else if c == '+' then
        pass
        pattern fuel branches (← repeatLast 1 none parts)
      else if c == '\x7b' then
        let (least, most) ← counts
        pattern fuel branches (← repeatLast least most parts)
      else if c == '\\' then pattern fuel branches ((← escape) :: parts)
      else
        pass
        let part : Term :=
          if c == '.' then .dot
          else if c == '^' then .assertion .lineStart
          else if c == '$' then .assertion .lineEnd
          else .literal ⟨c, false⟩
        pattern fuel branches (part :: parts)

end Parse

def maxDepth : Nat := 250

def Term.ofText? (text : String) : Option Term := do
  let cs := text.toList
  let (term, rest) ← (Parse.pattern (cs.length + 1) [] []).run ⟨cs, false, []⟩
  if rest.text.isEmpty && term.depth ≤ maxDepth then some term else none

end SubmissionGrader.Pattern
