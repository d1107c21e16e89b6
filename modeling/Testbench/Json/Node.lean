import Testbench.Decimal.Notation
import Testbench.Text.Quoted

/-!
# Document trees

A document is read into a tree even if it is broken: the tree holds everything up to the place where
reading stops and, at that place, why it stops.  A reader that walks the tree from left to right
therefore meets the first defect of the document first, whether the defect lies in the text or in
what the text says.

Two readings of a text differ.  A value that is *wanted* must be sound in itself: a number must have
a magnitude that a double can hold, and the surrogates in a text must come in pairs.  A value that
is *skipped* need only be well formed.  So a leaf keeps the outcome of its wanted reading, and a
container keeps the place where even skipping cannot go on.
-/

namespace Testbench.Json

/-- Why reading stops. -/
inductive Stop where
  /-- The text is not a document. -/
  | malformed
  /-- The text ends too early. -/
  | truncated
  deriving DecidableEq, Repr, Inhabited

/-- A word or a number. -/
inductive Literal where
  | null
  | bool (value : Bool)
  | integer (value : Int)
  /-- A number that is written with a fraction or an exponent, or is too large for an integer. -/
  | real (value : Float)
  deriving Repr, Inhabited

/-- A document or a part of one. -/
inductive Node where
  /-- Nothing that begins a value stands here. -/
  | missing (stop : Stop)
  /-- A word or a number, if it can be read. -/
  | literal (reading : Except Stop Literal)
  /-- A text, if it can be read. -/
  | text (reading : Except Stop String)
  /-- Items up to the closing bracket, or up to the stop before it. -/
  | array (items : List Node) (stop : Option Stop)
  /-- Members up to the closing brace, or up to the stop before it.  `keyDue` says whether the stop
  is at a place where a key is due. -/
  | object (members : List (Except Stop String × Node)) (stop : Option Stop) (keyDue : Bool)
  deriving Inhabited

/-- The kind of a value, with the value where it is short. -/
inductive Found where
  | literal (value : Literal)
  | text (value : String)
  | sequence
  | map
  deriving Repr, Inhabited

/-- A kind of value in a message. -/
def Found.describe : Found → String
  | .literal .null => "null"
  | .literal (.bool value) => "boolean `" ++ Text.ofBool value ++ "`"
  | .literal (.integer value) => "integer `" ++ toString value ++ "`"
  | .literal (.real value) => "floating point `" ++ Decimal.text value ++ "`"
  | .text value => "string " ++ Text.quoted value
  | .sequence => "sequence"
  | .map => "map"

/-- The kind of a node.  Containers are recognised by their opening bracket, leaves have to be read
to the end. -/
def Node.found : Node → Except Stop Found
  | .missing stop => .error stop
  | .literal reading => reading.map .literal
  | .text reading => reading.map .text
  | .array _ _ => .ok .sequence
  | .object _ _ _ => .ok .map

end Testbench.Json
