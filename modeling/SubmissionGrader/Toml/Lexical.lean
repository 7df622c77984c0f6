/-!
# The small parts of TOML

Blank space, comments, ends of lines, and the characters and words of strings, numbers, dates and
times. Every reader takes the text in front of it and gives what it read with the rest.
-/

namespace SubmissionGrader.Toml

def isSpace (c : Char) : Bool := c == ' ' || c == '\t'

def skipSpace (cs : List Char) : List Char := cs.dropWhile isSpace

/-- A character that may stand in a line: no control character but the tab. -/
def isLineChar (c : Char) : Bool := c == '\t' || (0x20 ≤ c.toNat && c.toNat != 0x7f)

/-- A character that stands for itself between double quotes. -/
def isBasicChar (c : Char) : Bool := isLineChar c && c != '\x22' && c != '\\'

/-- A character that may stand between single quotes. -/
def isLiteralChar (c : Char) : Bool := isLineChar c && c != '\x27'

def isKeyChar (c : Char) : Bool := c.isAlphanum || c == '-' || c == '_'

def lineBreak? : List Char → Option (List Char)
  | '\n' :: rest => some rest
  | '\r' :: '\n' :: rest => some rest
  | _ => none

def skipComment : List Char → List Char
  | '#' :: rest => rest.dropWhile isLineChar
  | cs => cs

/-- The text behind the rest of a line, which may hold a comment and nothing else. -/
def lineRest? (cs : List Char) : Option (List Char) :=
  match skipComment (skipSpace cs) with
  | [] => some []
  | rest => lineBreak? rest

/-- The text behind blank space, comments and ends of lines. A comment has to end with its line. -/
def skipLines? : Nat → List Char → Option (List Char)
  | 0, cs => some cs
  | fuel + 1, cs =>
    match skipSpace cs with
    | '#' :: rest => do skipLines? fuel (← lineBreak? (rest.dropWhile isLineChar))
    | '\n' :: rest => skipLines? fuel rest
    | '\r' :: rest => do skipLines? fuel (← lineBreak? ('\r' :: rest))
    | rest => some rest

def word? (word : String) (cs : List Char) : Option (List Char) :=
  if word.toList.isPrefixOf cs then some (cs.drop word.length) else none

/-! ### Numbers -/

def digit? (base : Nat) (c : Char) : Option Nat :=
  let n? : Option Nat :=
    if c.isDigit then some (c.toNat - '0'.toNat)
    else if 'a' ≤ c && c ≤ 'f' then some (c.toNat - 'a'.toNat + 10)
    else if 'A' ≤ c && c ≤ 'F' then some (c.toNat - 'A'.toNat + 10)
    else none
  n?.filter (· < base)

def isDigitIn (base : Nat) (c : Char) : Bool := (digit? base c).isSome

/-- The digits behind a digit; there may be one underscore between two digits. -/
def moreDigits? (base : Nat) : List Char → Option (List Char × List Char)
  | '_' :: c :: rest =>
    if isDigitIn base c then (moreDigits? base rest).map fun (cs, rest) => (c :: cs, rest) else none
  | c :: rest =>
    if isDigitIn base c then (moreDigits? base rest).map fun (cs, rest) => (c :: cs, rest)
    else if c == '_' then none
    else some ([], c :: rest)
  | [] => some ([], [])

def digits? (base : Nat) : List Char → Option (List Char × List Char)
  | c :: rest =>
    if isDigitIn base c then (moreDigits? base rest).map fun (cs, rest) => (c :: cs, rest) else none
  | [] => none

def digitsValue (base : Nat) (digits : List Char) : Nat :=
  digits.foldl (fun n c => base * n + (digit? base c).getD 0) 0

/-- Whether there is a minus sign, and what stands behind the sign if there is one. -/
def signed : List Char → Bool × List Char
  | '-' :: rest => (true, rest)
  | '+' :: rest => (false, rest)
  | cs => (false, cs)

/-- A decimal number without sign: a zero stands alone. -/
def whole? : List Char → Option (List Char × List Char)
  | '0' :: rest => some (['0'], rest)
  | cs => digits? 10 cs

def fraction? : List Char → Option (List Char × List Char)
  | '.' :: rest => (digits? 10 rest).map fun (cs, rest) => ('.' :: cs, rest)
  | _ => none

def exponent? : List Char → Option (List Char × List Char)
  | e :: rest =>
    if e == 'e' || e == 'E' then
      let (negative, rest) := signed rest
      (digits? 10 rest).map fun (cs, rest) => ((if negative then ['e', '-'] else ['e']) ++ cs, rest)
    else none
  | [] => none

/-- What makes a number a float: a fraction, an exponent, or both. -/
def floatTail? (cs : List Char) : Option (List Char × List Char) :=
  match fraction? cs with
  | some (fraction, rest) =>
    match exponent? rest with
    | some (exponent, rest) => some (fraction ++ exponent, rest)
    | none =>
      if rest.head?.any (fun c => c == 'e' || c == 'E') then none else some (fraction, rest)
  | none => exponent? cs

/-! ### Dates and times -/

/-- A number of exactly `count` digits in a range. -/
def field? (count low high : Nat) (cs : List Char) : Option (Nat × List Char) :=
  let digits := cs.take count
  let n := digitsValue 10 digits
  if digits.length == count && digits.all Char.isDigit && low ≤ n && n ≤ high then
    some (n, cs.drop count)
  else none

def daysOf (year month : Nat) : Nat :=
  if month == 2 then
    if year % 4 == 0 && (year % 100 != 0 || year % 400 == 0) then 29 else 28
  else if month == 4 || month == 6 || month == 9 || month == 11 then 30
  else 31

def date? (cs : List Char) : Option (List Char) := do
  let (year, rest) ← field? 4 0 9999 cs
  let (month, rest) ← field? 2 1 12 (← word? "-" rest)
  let (_, rest) ← field? 2 1 (daysOf year month) (← word? "-" rest)
  return rest

def time? (cs : List Char) : Option (List Char) := do
  let (_, rest) ← field? 2 0 23 cs
  let (_, rest) ← field? 2 0 59 (← word? ":" rest)
  let (_, rest) ← field? 2 0 60 (← word? ":" rest)
  match rest with
  | '.' :: part => if part.head?.any Char.isDigit then some (part.dropWhile Char.isDigit) else none
  | _ => some rest

def offset? : List Char → Option (List Char)
  | [] => some []
  | c :: rest =>
    if c == 'Z' || c == 'z' then some rest
    else if c == '+' || c == '-' then do
      let (_, rest) ← field? 2 0 23 rest
      let (_, rest) ← field? 2 0 59 (← word? ":" rest)
      return rest
    else some (c :: rest)

/-- The text behind a date, a time, or both. -/
def moment? (cs : List Char) : Option (List Char) :=
  match date? cs with
  | some (c :: rest) =>
    if c == 'T' || c == 't' || c == ' ' then
      match time? rest with
      | some rest => offset? rest
      | none => some (c :: rest)
    else some (c :: rest)
  | some [] => some []
  | none => time? cs

/-! ### Strings -/

def codePoint? (count : Nat) (cs : List Char) : Option (Char × List Char) :=
  let digits := cs.take count
  let n := digitsValue 16 digits
  if digits.length == count && digits.all (isDigitIn 16) && n.isValidChar then
    some (Char.ofNat n, cs.drop count)
  else none

def escape? : List Char → Option (Char × List Char)
  | 'b' :: rest => some ('\x08', rest)
  | 't' :: rest => some ('\t', rest)
  | 'n' :: rest => some ('\n', rest)
  | 'f' :: rest => some ('\x0c', rest)
  | 'r' :: rest => some ('\r', rest)
  | '\x22' :: rest => some ('\x22', rest)
  | '\\' :: rest => some ('\\', rest)
  | 'u' :: rest => codePoint? 4 rest
  | 'U' :: rest => codePoint? 8 rest
  | _ => none

def basicText? : Nat → List Char → Option (List Char × List Char)
  | 0, _ => none
  | fuel + 1, cs =>
    match cs with
    | '\x22' :: rest => some ([], rest)
    | '\\' :: rest => do
      let (c, rest) ← escape? rest
      let (cs, rest) ← basicText? fuel rest
      return (c :: cs, rest)
    | c :: rest =>
      if isBasicChar c then (basicText? fuel rest).map fun (cs, rest) => (c :: cs, rest) else none
    | [] => none

def literalText? (cs : List Char) : Option (List Char × List Char) :=
  match cs.dropWhile isLiteralChar with
  | '\x27' :: rest => some (cs.takeWhile isLiteralChar, rest)
  | _ => none

/-- The text behind a backslash that stands at the end of a line, and all blank space behind it. -/
def continued? (cs : List Char) : Option (List Char) :=
  (lineBreak? (skipSpace cs)).map fun rest => skipLineSpace rest.length rest
where
  /-- The text behind blank space and ends of lines. -/
  skipLineSpace : Nat → List Char → List Char
    | 0, cs => cs
    | fuel + 1, cs =>
      match lineBreak? (skipSpace cs) with
      | some rest => skipLineSpace fuel rest
      | none => skipSpace cs

/-- A string over several lines up to its three end quotes, in front of which one or two more quotes
may belong to the string. With `escapes`, backslashes have a meaning. -/
def linesText? (quote : Char) (escapes : Bool) : Nat → List Char → Option (List Char × List Char)
  | 0, _ => none
  | fuel + 1, cs =>
    match cs with
    | [] => none
    | c :: rest =>
      if c == quote then
        let run := (cs.takeWhile (· == quote)).length
        if 3 ≤ run then
          let more := min (run - 3) 2
          some (List.replicate more quote, cs.drop (more + 3))
        else (linesText? quote escapes fuel rest).map fun (cs, rest) => (c :: cs, rest)
      else if escapes && c == '\\' then
        match continued? rest with
        | some rest => linesText? quote escapes fuel rest
        | none => do
          let (c, rest) ← escape? rest
          let (cs, rest) ← linesText? quote escapes fuel rest
          return (c :: cs, rest)
      else
        match lineBreak? cs with
        | some rest => (linesText? quote escapes fuel rest).map fun (cs, rest) => ('\n' :: cs, rest)
        | none =>
          if isLineChar c then
            (linesText? quote escapes fuel rest).map fun (cs, rest) => (c :: cs, rest)
          else none

def dropFirstBreak (cs : List Char) : List Char := (lineBreak? cs).getD cs

def string? (cs : List Char) : Option (List Char × List Char) :=
  match cs with
  | '\x22' :: '\x22' :: '\x22' :: rest => linesText? '\x22' true cs.length (dropFirstBreak rest)
  | '\x27' :: '\x27' :: '\x27' :: rest => linesText? '\x27' false cs.length (dropFirstBreak rest)
  | '\x22' :: rest => basicText? cs.length rest
  | '\x27' :: rest => literalText? rest
  | _ => none

end SubmissionGrader.Toml
