import SubmissionGrader.Text.Printable

/-!
# Quoted texts

How a text is shown between quotes in a message: on one line, with nothing invisible in it.
-/

namespace SubmissionGrader.Text

def escapedCode (c : Char) : String :=
  "\\u\x7b" ++ String.ofList (Nat.toDigits 16 c.toNat) ++ "\x7d"

def quotedChar (c : Char) : String :=
  if c == '\x00' then "\\0"
  else if c == '\t' then "\\t"
  else if c == '\n' then "\\n"
  else if c == '\r' then "\\r"
  else if c == '\x22' then "\\\""
  else if c == '\\' then "\\\\"
  else if isPrintable c then c.toString
  else escapedCode c

def quoted (s : String) : String := "\"" ++ String.join (s.toList.map quotedChar) ++ "\""

end SubmissionGrader.Text
