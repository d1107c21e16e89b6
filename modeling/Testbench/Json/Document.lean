import Testbench.Json.Lexeme

/-!
# Reading a document

The reader turns a text into a tree (`parse`).  It never fails: where the text stops making sense
the tree says so, and what lies behind is not looked at.  Blanks are the space, the tab, the line
feed and the carriage return.

The reading functions call each other at most twice between two characters of the text, so they
count down from twice its length and never reach zero.
-/

namespace Testbench.Json

/-- Is the character a blank between the parts of a document? -/
def isBlank (c : Char) : Bool := c == ' ' || c == '\t' || c == '\n' || c == '\r'

/-- The text without the blanks in front. -/
def skipBlanks (s : List Char) : List Char := s.dropWhile isBlank

/-- A value with what follows it, or why nothing can follow. -/
structure Reading where
  /-- The value. -/
  node : Node
  /-- The text behind the value. -/
  rest : Except Stop (List Char)
  deriving Inhabited

/-- A place where no value begins. -/
def Reading.missing (stop : Stop) : Reading := ⟨.missing stop, .error stop⟩

/-- A word of the language. -/
def readWord (word : List Char) (value : Literal) (s : List Char) : Reading :=
  let rest := expectWord word s
  ⟨.literal (rest.map fun _ => value), rest⟩

/-- A number behind its sign. -/
def readNumber (negative : Bool) (s : List Char) : Reading :=
  match Numeral.scan s with
  | .ok (n, rest) =>
      match n.literal? negative with
      | some value => ⟨.literal (.ok value), .ok rest⟩
      | none => ⟨.literal (.error .malformed), .ok rest⟩
  | .error stop => ⟨.literal (.error stop), .error .malformed⟩

/-- A text behind its opening quote. -/
def readText (s : List Char) : Reading :=
  let pieces := cut s
  ⟨.text pieces.reading, pieces.rest⟩

/-- The parts of a container with what follows it. -/
structure Parts (α : Type) where
  /-- The parts in order. -/
  parts : List α
  /-- Why the closing bracket is not reached, if it is not. -/
  stop : Option Stop := none
  /-- Whether the stop is at a place where a key is due. -/
  keyDue : Bool := false
  /-- The text behind the container. -/
  rest : Except Stop (List Char)
  deriving Inhabited

namespace Parts

/-- No parts, because reading stops here. -/
def stopped {α : Type} (stop : Stop) : Parts α :=
  { parts := [], stop := some stop, rest := .error stop }

/-- The same parts behind one more. -/
def after {α : Type} (part : α) (p : Parts α) : Parts α := { p with parts := part :: p.parts }

end Parts

/-- What comes after a part of a container: the closing bracket, a comma and more, or a stop. -/
def continueParts {α : Type} (close : Char) (more : List Char → Parts α)
    (rest : Except Stop (List Char)) : Parts α :=
  match rest with
  | .error stop => .stopped stop
  | .ok s =>
      match skipBlanks s with
      | [] => .stopped .truncated
      | c :: s =>
          if c = close then { parts := [], rest := .ok s }
          else if c = ',' then more s
          else .stopped .malformed

mutual

/-- A value with at most `fuel` characters in front of its end. -/
def readNode : Nat → List Char → Reading
  | 0, _ => .missing .truncated
  | fuel + 1, s =>
      match skipBlanks s with
      | [] => .missing .truncated
      | '[' :: s =>
          let p := readItems fuel true s
          ⟨.array p.parts p.stop, p.rest⟩
      | '{' :: s =>
          let p := readMembers fuel true s
          ⟨.object p.parts p.stop p.keyDue, p.rest⟩
      | '"' :: s => readText s
      | '-' :: s => readNumber true s
      | 'n' :: s => readWord ['u', 'l', 'l'] .null s
      | 't' :: s => readWord ['r', 'u', 'e'] (.bool true) s
      | 'f' :: s => readWord ['a', 'l', 's', 'e'] (.bool false) s
      | c :: s => if c.isDigit then readNumber false (c :: s) else .missing .malformed

/-- The items of an array.  `mayClose` holds directly behind the opening bracket. -/
def readItems : Nat → Bool → List Char → Parts Node
  | 0, _, _ => .stopped .truncated
  | fuel + 1, mayClose, s =>
      match skipBlanks s, mayClose with
      | [], true => .stopped .truncated
      | ']' :: s, true => { parts := [], rest := .ok s }
      | s, _ =>
          let item := readNode fuel s
          (continueParts ']' (readItems fuel false) item.rest).after item.node

/-- The members of an object.  `mayClose` holds directly behind the opening brace. -/
def readMembers : Nat → Bool → List Char → Parts (Except Stop String × Node)
  | 0, _, _ => .stopped .truncated
  | fuel + 1, mayClose, s =>
      match skipBlanks s, mayClose with
      | [], _ => { Parts.stopped .truncated with keyDue := true }
      | '}' :: s, true => { parts := [], rest := .ok s }
      | '"' :: s, _ =>
          let key := cut s
          let value := match key.rest.map skipBlanks with
            | .ok (':' :: s) => readNode fuel s
            | .ok [] => .missing .truncated
            | .ok (_ :: _) => .missing .malformed
            | .error stop => .missing stop
          (continueParts '}' (readMembers fuel false) value.rest).after (key.reading, value.node)
      | _, _ => { Parts.stopped .malformed with keyDue := true }

end

/-- A whole text: its tree, and why what follows the tree is not allowed. -/
structure Document where
  /-- The tree. -/
  root : Node
  /-- The stop behind the tree, if anything but blanks follows. -/
  stop : Option Stop
  deriving Inhabited

/-- Reads a text. -/
def parse (text : List Char) : Document :=
  let r := readNode (2 * text.length + 1) text
  match r.rest with
  | .error stop => ⟨r.node, some stop⟩
  | .ok rest => ⟨r.node, if (skipBlanks rest).isEmpty then none else some .malformed⟩

end Testbench.Json
