import LiveTree.Text.Invisible

/-!
# Quoted texts

The quoted form of a text stands between double quotes.  Backslash, double quote, tab, carriage
return, line feed and the null character have short escapes; a character without a visible form is
written as its code in lower-case hexadecimal.
-/

namespace LiveTree.Text

/-- One character inside quotes. -/
def quotedChar (c : Char) : String :=
  if c == '\x00' then "\\0"
  else if c == '\t' then "\\t"
  else if c == '\r' then "\\r"
  else if c == '\n' then "\\n"
  else if c == '\\' then "\\\\"
  else if c == '"' then "\\\""
  else if ' ' ≤ c && c ≤ '~' then c.toString
  else if isInvisible c then "\\u\x7b" ++ String.ofList (Nat.toDigits 16 c.toNat) ++ "\x7d"
  else c.toString

/-- The quoted form of a text. -/
def quoted (text : List Char) : String :=
  "\"" ++ String.join (text.map quotedChar) ++ "\""

end LiveTree.Text
