import Testbench.Text.Number

/-!
# Printing documents

Documents are printed either without blanks or over several lines, indented by two spaces a level.
In texts the quote, the backslash and the control characters are escaped and nothing else.  An empty
list or record takes no line of its own.
-/

namespace Testbench.Json

/-- A document to be printed. -/
inductive Output where
  | null
  | bool (value : Bool)
  | natural (value : Nat)
  | text (value : String)
  | list (items : List Output)
  | record (fields : List (String × Output))
  deriving Inhabited

/-- A character inside the quotes of a text. -/
def escapeChar (c : Char) : String :=
  if c = '"' then "\\\""
  else if c = '\\' then "\\\\"
  else if c = '\x08' then "\\b"
  else if c = '\t' then "\\t"
  else if c = '\n' then "\\n"
  else if c = '\x0c' then "\\f"
  else if c = '\r' then "\\r"
  else if c.toNat < 0x20 then "\\u" ++ Text.padLeft 4 '0' (Text.hexDigits c.toNat)
  else String.singleton c

/-- A text in quotes. -/
def escape (s : String) : String := "\"" ++ String.join (s.toList.map escapeChar) ++ "\""

namespace Output

mutual

/-- The document without blanks. -/
def compact : Output → String
  | .null => "null"
  | .bool value => Text.ofBool value
  | .natural value => toString value
  | .text value => escape value
  | .list items => "[" ++ String.intercalate "," (compactItems items) ++ "]"
  | .record fields => "\x7b" ++ String.intercalate "," (compactFields fields) ++ "\x7d"

/-- The items of a list without blanks. -/
def compactItems : List Output → List String
  | [] => []
  | item :: rest => item.compact :: compactItems rest

/-- The fields of a record without blanks. -/
def compactFields : List (String × Output) → List String
  | [] => []
  | (name, value) :: rest => (escape name ++ ":" ++ value.compact) :: compactFields rest

end

/-- A new line at a level. -/
def newline (level : Nat) : String := "\n" ++ Text.repeated (2 * level) ' '

mutual

/-- The document over several lines, at a level. -/
def pretty (level : Nat) : Output → String
  | .list (item :: rest) =>
      "[" ++ String.intercalate "," (prettyItems (level + 1) (item :: rest)) ++ newline level ++ "]"
  | .record (field :: rest) =>
      "\x7b" ++ String.intercalate "," (prettyFields (level + 1) (field :: rest)) ++ newline level
        ++ "\x7d"
  | .list [] => "[]"
  | .record [] => "\x7b\x7d"
  | .null => "null"
  | .bool value => Text.ofBool value
  | .natural value => toString value
  | .text value => escape value

/-- The items of a list, each on a line of its own. -/
def prettyItems (level : Nat) : List Output → List String
  | [] => []
  | item :: rest => (newline level ++ item.pretty level) :: prettyItems level rest

/-- The fields of a record, each on a line of its own. -/
def prettyFields (level : Nat) : List (String × Output) → List String
  | [] => []
  | (name, value) :: rest =>
      (newline level ++ escape name ++ ": " ++ value.pretty level) :: prettyFields level rest

end

end Output

end Testbench.Json
