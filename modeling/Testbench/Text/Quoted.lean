import Testbench.Text.Invisible
import Testbench.Text.Number

/-!
# Quoted text

A text is quoted for a message by putting it between double quotes and writing every character that
would be misread by an escape: the quote and the backslash behind a backslash, the common controls
by a letter, and every other character without a shape of its own by its code.
-/

namespace Testbench.Text

/-- A character inside quotes. -/
def quoteChar (c : Char) : String :=
  if c = '"' then "\\\""
  else if c = '\\' then "\\\\"
  else if c = '\n' then "\\n"
  else if c = '\r' then "\\r"
  else if c = '\t' then "\\t"
  else if c.toNat = 0 then "\\0"
  else if isInvisible c then "\\u\x7b" ++ hexDigits c.toNat ++ "\x7d"
  else String.singleton c

/-- A text between double quotes. -/
def quoted (s : String) : String := "\"" ++ String.join (s.toList.map quoteChar) ++ "\""

end Testbench.Text
