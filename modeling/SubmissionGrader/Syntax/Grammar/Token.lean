import SubmissionGrader.Syntax.Grammar.Semicolon

/-!
# Tokens

Readers for single tokens with the white space and comments in front of them, and for building
a node around what a reader consumes.
-/

namespace SubmissionGrader.Syntax

namespace Reader

def trivia : Reader Unit := fun c =>
  match Lexeme.trivia c.size c.rest with
  | 0 => .done () c
  | n + 1 => .done () (c.advance (n + 1))

/-- Consumes white space and comments, also those in the style of HTML. -/
def triviaAtStart : Reader Unit := fun c =>
  Reader.grow (fun () => do
    trivia
    match Lexeme.htmlComment (← rest) with
    | 0 => return none
    | n + 1 => skip (n + 1); return some ()) () c

/-- Runs the reader behind white space and comments without consuming anything. -/
def ahead {α : Type} (p : List Char → α) : Reader α := fun c =>
  .done (p (c.rest.drop (Lexeme.trivia c.size c.rest))) c

def leaf (symbol : Symbol) (n : Nat) : Reader Concrete := do
  let start ← offset
  skip n
  return .node ⟨symbol, false, none, ⟨start, ← offset⟩⟩ []

/-- The operator that follows, as text; empty if there is none. -/
def nextOperator : Reader String := ahead fun cs => String.ofList (Lexeme.operator cs)

/-- The word that follows, empty if there is none. -/
def nextWord : Reader String := ahead fun cs => String.ofList (cs.take (Lexeme.word cs))

def nextChar : Reader (Option Char) := ahead List.head?

def sees (text : String) : Reader Bool := do return (← nextOperator) == text

def seesWord (text : String) : Reader Bool := do return (← nextWord) == text

/-- Consumes the given operator, which has to be the longest one at this place. -/
def op (text : String) : Reader Concrete := do
  trivia
  if Lexeme.operator (← rest) == text.toList then leaf (.token text) text.length else refuse

/-- Consumes the given characters, whatever follows them. -/
def exactly (text : String) : Reader Concrete := do
  trivia
  if text.toList.isPrefixOf (← rest) then leaf (.token text) text.length else refuse

def keyword (text : String) : Reader Concrete := do
  if ← seesWord text then
    trivia
    leaf (.token text) text.length
  else
    trivia
    refuse

/-- Consumes a word that is none of the given ones, as a leaf of the given kind. -/
def wordExcept (excluded : List String) (kind : Kind) : Reader Concrete := do
  let word ← nextWord
  trivia
  if word.isEmpty || excluded.contains word then refuse else leaf (.named kind) word.length

def anyWord (kind : Kind) : Reader Concrete := wordExcept [] kind

def opIf (text : String) : Reader (List Concrete) := do
  if ← sees text then return [← op text] else return []

def keywordIf (text : String) : Reader (List Concrete) := do
  if ← seesWord text then return [← keyword text] else return []

def build (kind : Kind) (p : Reader (List Concrete)) : Reader Concrete := do
  trivia
  let start ← offset
  let children ← p
  return .named kind ⟨start, ← offset⟩ children

/-- A node of the given kind that begins with a node that was read before. -/
def extendNode (kind : Kind) (first : Concrete) (p : Reader (List Concrete)) : Reader Concrete := do
  let children ← p
  return .named kind ⟨first.span.start, ← offset⟩ (first :: children)

/-- Whether a semicolon is inserted here behind a construct of the given ending. -/
def semicolonInserted (ending : Ending) : Reader Bool := fun c =>
  .done (ending != .closed && Semicolon.isInserted c.size ending c.rest) c

/-- Consumes the end of a statement: an automatic semicolon or a written one. -/
def semicolon (ending : Ending) : Reader (List Concrete) := do
  if ← semicolonInserted ending then return [] else return [← op ";"]

def atEnd : Reader Bool := ahead List.isEmpty

/-- Items with separators: reads `item` and the separator in turn until `closes` holds. An item
may be missing where `item` gives nothing. -/
def separatedUntil (closes : Reader Bool) (item : Reader (List Concrete)) :
    Reader (List Concrete) := do
  let parts ← many do
    if ← closes then return none
    let found ← item
    if ← closes then
      if found.isEmpty then refuse else return some found
    return some (found ++ [← op ","])
  return parts.flatten

/-- Items with separators before the closing operator, which is left. -/
def separated (close : String) (item : Reader (List Concrete)) : Reader (List Concrete) :=
  separatedUntil (sees close) item

end Reader

end SubmissionGrader.Syntax
