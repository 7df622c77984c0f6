import SubmissionGrader.Unicode.Letter
import SubmissionGrader.Unicode.Mark
import SubmissionGrader.Unicode.Numeral
import SubmissionGrader.Unicode.Punctuation
import SubmissionGrader.Unicode.Separator
import SubmissionGrader.Unicode.Symbol

/-!
# General categories

Every code point has one general category, and the categories form groups. Both are listed under
their names in `categories`.
-/

namespace SubmissionGrader.Unicode

open Text

def letter : Ranges :=
  Ranges.unions [uppercaseLetter, lowercaseLetter, titlecaseLetter, modifierLetter, otherLetter]

def casedLetter : Ranges := Ranges.unions [uppercaseLetter, lowercaseLetter, titlecaseLetter]

def mark : Ranges := Ranges.unions [nonspacingMark, spacingMark, enclosingMark]

def number : Ranges := Ranges.unions [decimalNumber, letterNumber, otherNumber]

def punctuation : Ranges :=
  Ranges.unions [connectorPunctuation, dashPunctuation, openPunctuation, closePunctuation,
    initialPunctuation, finalPunctuation, otherPunctuation]

def symbol : Ranges := Ranges.unions [mathSymbol, currencySymbol, modifierSymbol, otherSymbol]

def separator : Ranges := Ranges.unions [spaceSeparator, lineSeparator, paragraphSeparator]

/-- The code points that no character has and no character is made of. -/
def surrogate : Ranges := [(0xD800, 0xDFFF)]

def assigned : Ranges :=
  Ranges.unions [letter, mark, number, punctuation, symbol, separator, control, format, privateUse]

def unassigned : Ranges := (assigned.union surrogate).complement

def other : Ranges := Ranges.unions [control, format, privateUse, unassigned]

/-- The categories under their names in lower case, without separators. -/
def categories : List (List String × Ranges) :=
  [(["any"], [(0, maxCodePoint)]),
   (["ascii"], [(0, 127)]),
   (["assigned"], assigned.union surrogate),
   (["letter", "l"], letter),
   (["casedletter", "lc"], casedLetter),
   (["uppercaseletter", "lu"], uppercaseLetter),
   (["lowercaseletter", "ll"], lowercaseLetter),
   (["titlecaseletter", "lt"], titlecaseLetter),
   (["modifierletter", "lm"], modifierLetter),
   (["otherletter", "lo"], otherLetter),
   (["mark", "m", "combiningmark"], mark),
   (["nonspacingmark", "mn"], nonspacingMark),
   (["spacingmark", "mc"], spacingMark),
   (["enclosingmark", "me"], enclosingMark),
   (["number", "n"], number),
   (["decimalnumber", "nd", "digit"], decimalNumber),
   (["letternumber", "nl"], letterNumber),
   (["othernumber", "no"], otherNumber),
   (["punctuation", "p", "punct"], punctuation),
   (["connectorpunctuation", "pc"], connectorPunctuation),
   (["dashpunctuation", "pd"], dashPunctuation),
   (["openpunctuation", "ps"], openPunctuation),
   (["closepunctuation", "pe"], closePunctuation),
   (["initialpunctuation", "pi"], initialPunctuation),
   (["finalpunctuation", "pf"], finalPunctuation),
   (["otherpunctuation", "po"], otherPunctuation),
   (["symbol", "s"], symbol),
   (["mathsymbol", "sm"], mathSymbol),
   (["currencysymbol", "sc"], currencySymbol),
   (["modifiersymbol", "sk"], modifierSymbol),
   (["othersymbol", "so"], otherSymbol),
   (["separator", "z"], separator),
   (["spaceseparator", "zs"], spaceSeparator),
   (["lineseparator", "zl"], lineSeparator),
   (["paragraphseparator", "zp"], paragraphSeparator),
   (["other", "c"], other),
   (["control", "cc", "cntrl"], control),
   (["format", "cf"], format),
   (["privateuse", "co"], privateUse),
   (["unassigned", "cn"], unassigned)]

end SubmissionGrader.Unicode
