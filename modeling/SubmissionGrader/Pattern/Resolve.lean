import SubmissionGrader.Pattern.Expression
import SubmissionGrader.Pattern.Parse
import SubmissionGrader.Unicode.CaseFolding
import SubmissionGrader.Unicode.Script

/-!
# Resolving flags and properties

`Term.resolve?` gives the expression that a term stands for under flags. A term is refused if it
names no property, or if it could match a part of a character.
-/

namespace SubmissionGrader.Pattern

open Text

structure Flags where
  ignoreCase : Bool := false
  multiLine : Bool := false
  dotMatchesLineFeed : Bool := false
  swapGreed : Bool := false
  unicode : Bool := true
  crlf : Bool := false

namespace Flags

def switch (flags : Flags) : Flag → Bool → Flags
  | .ignoreCase, on => { flags with ignoreCase := on }
  | .multiLine, on => { flags with multiLine := on }
  | .dotMatchesLineFeed, on => { flags with dotMatchesLineFeed := on }
  | .swapGreed, on => { flags with swapGreed := on }
  | .unicode, on => { flags with unicode := on }
  | .crlf, on => { flags with crlf := on }
  | .ignoreSpace, _ => flags

def change (flags : Flags) (changes : FlagChanges) : Flags :=
  changes.foldl (fun flags (flag, on) => flags.switch flag on) flags

end Flags

/-! ### Properties -/

/-- A name in lower case, without blanks, hyphens and underscores, and without `is` in front. -/
def normalName (name : String) : String :=
  let cs := name.toList
  let hasIs := (cs.take 2).map Char.toLower == ['i', 's']
  let kept := (if hasIs then cs.drop 2 else cs).filter fun c =>
    c.toNat < 128 && c != ' ' && c != '-' && c != '_'
  let lowered := kept.map Char.toLower
  if hasIs && lowered == ['c'] then "isc" else String.ofList lowered

def lookUp? (sets : List (List String × Ranges)) (name : String) : Option Ranges :=
  (sets.find? fun entry => entry.1.contains name).map Prod.snd

def script? (name : String) : Option Unicode.Script :=
  Unicode.scripts.find? fun script => script.names.contains name

/-- Names that stand for a category although they are short for a kind of property, too. -/
def categoryFirst : List String := ["cf", "sc", "lc"]

def Property.characters? : Property → Option Ranges
  | named name =>
    let name := normalName name
    let property := if categoryFirst.contains name then none else lookUp? Unicode.properties name
    (property.or (lookUp? Unicode.categories name)).or ((script? name).map (·.characters))
  | valued kind value =>
    let value := normalName value
    match normalName kind with
    | "generalcategory" | "gc" => lookUp? Unicode.categories value
    | "script" | "sc" => (script? value).map (·.characters)
    | "scriptextensions" | "scx" => (script? value).map (·.extended)
    | _ => none

/-! ### Classes -/

def LetterClass.characters (unicode : Bool) : LetterClass → Ranges
  | digit => if unicode then Unicode.decimalNumber else [(48, 57)]
  | space => if unicode then blankRanges else [(9, 13), (32, 32)]
  | word => wordSet unicode

def isAscii (set : Ranges) : Bool := set.all (·.2 < 128)

def withAsciiVariants (set : Ranges) : Ranges :=
  let shifted (low high : Nat) (shift : Int) : Ranges :=
    (set.intersection [(low, high)]).map fun (l, h) =>
      (((l : Int) + shift).toNat, ((h : Int) + shift).toNat)
  Ranges.unions [set, shifted 65 90 32, shifted 97 122 (-32)]

/-- A set with the characters that differ in case, if case is to be ignored. -/
def folded (flags : Flags) (set : Ranges) : Ranges :=
  if !flags.ignoreCase then set
  else if flags.unicode then Unicode.withCaseVariants set
  else withAsciiVariants set

/-- A set, or all other characters. Without Unicode a set of ASCII characters has to come out,
since all else could match a part of a character. -/
def negatedIf? (flags : Flags) (negated : Bool) (set : Ranges) : Option Ranges :=
  let set := if negated then set.complement else set
  if flags.unicode || isAscii set then some set else none

def Literal.code? (flags : Flags) (l : Literal) : Option Nat :=
  if flags.unicode || l.character.toNat < 128 then some l.character.toNat else none

/-- The characters that an operator leaves of two sets. -/
def SetOperator.apply (operator : SetOperator) (left right : Ranges) : Ranges :=
  match operator with
  | intersection => left.intersection right
  | difference => left.difference right
  | symmetricDifference => left.symmetricDifference right

mutual

def ClassItem.resolve? (flags : Flags) : ClassItem → Option Ranges
  | .literal l => (l.code? flags).map fun code => [(code, code)]
  | .range low high => do return [(← low.code? flags, ← high.code? flags)]
  | .ascii negated members => negatedIf? flags negated (folded flags members)
  | .letter negated kind => negatedIf? flags negated (kind.characters flags.unicode)
  | .property negated query => do
    if !flags.unicode then none
    negatedIf? flags negated (folded flags (← query.characters?))
  | .bracketed negated set => do negatedIf? flags negated (folded flags (← set.resolve? flags))

def ClassSet.resolve? (flags : Flags) : ClassSet → Option Ranges
  | .items items => (resolveItems? flags items).map Ranges.unions
  | .operation operator left right => do
    let left ← left.resolve? flags
    let right ← right.resolve? flags
    return operator.apply (folded flags left) (folded flags right)

def resolveItems? (flags : Flags) : List ClassItem → Option (List Ranges)
  | [] => some []
  | item :: rest => do return (← item.resolve? flags) :: (← resolveItems? flags rest)

end

/-! ### Terms -/

def Assertion.look (flags : Flags) : Assertion → Look
  | lineStart => if flags.multiLine then .lineStart flags.crlf else .start
  | lineEnd => if flags.multiLine then .lineEnd flags.crlf else .finish
  | textStart => .start
  | textEnd => .finish
  | wordBoundary => .boundary flags.unicode
  | noWordBoundary => .noBoundary flags.unicode
  | wordStart => .wordStart flags.unicode
  | wordEnd => .wordEnd flags.unicode
  | wordStartHalf => .wordStartHalf flags.unicode
  | wordEndHalf => .wordEndHalf flags.unicode

/-- The characters that a literal stands for. A byte that is no character is refused. -/
def Literal.resolve? (flags : Flags) (l : Literal) : Option Ranges :=
  let code := l.character.toNat
  if !flags.unicode && l.isByte && 128 ≤ code then none
  else if flags.unicode && flags.ignoreCase && !Unicode.hasCaseVariants l.character then
    some [(code, code)]
  else some (folded flags [(code, code)])

def dotSet (flags : Flags) : Ranges :=
  if flags.dotMatchesLineFeed then [(0, maxCodePoint)]
  else if flags.crlf then Ranges.complement [(10, 10), (13, 13)]
  else Ranges.complement [(10, 10)]

mutual

/-- The expression that a term stands for, and the flags behind it. -/
def Term.resolve? (flags : Flags) : Term → Option (Expression × Flags)
  | .empty => some (.empty, flags)
  | .flags changes => some (.empty, flags.change changes)
  | .literal l => (l.resolve? flags).map fun set => (.set set, flags)
  | .dot => if flags.unicode then some (.set (dotSet flags), flags) else none
  | .assertion kind => some (.look (kind.look flags), flags)
  | .letter negated kind =>
    (negatedIf? flags negated (kind.characters flags.unicode)).map fun set => (.set set, flags)
  | .property negated query => do
    if !flags.unicode then none
    let set ← negatedIf? flags negated (folded flags (← query.characters?))
    return (.set set, flags)
  | .bracketed negated set => do
    let set ← negatedIf? flags negated (folded flags (← set.resolve? flags))
    return (.set set, flags)
  | .repetition least most greedy body => do
    let (body, after) ← body.resolve? flags
    return (.repeated least most (greedy != flags.swapGreed) body, after)
  | .capture body => do
    let (body, _) ← body.resolve? flags
    return (.capture body, flags)
  | .group changes body => do
    let (body, _) ← body.resolve? (flags.change changes)
    return (body, flags)
  | .alternation branches => do
    let (branches, after) ← resolveTerms? flags branches
    return (.choiceOf branches, after)
  | .sequence parts => do
    let (parts, after) ← resolveTerms? flags parts
    return (.sequenceOf parts, after)

/-- The expressions that terms stand for, one after the other, and the flags behind them. -/
def resolveTerms? (flags : Flags) : List Term → Option (List Expression × Flags)
  | [] => some ([], flags)
  | term :: rest => do
    let (expression, flags) ← term.resolve? flags
    let (expressions, flags) ← resolveTerms? flags rest
    return (expression :: expressions, flags)

end

def Expression.ofText? (text : String) : Option Expression := do
  let (expression, _) ← (← Term.ofText? text).resolve? {}
  return expression

end SubmissionGrader.Pattern
