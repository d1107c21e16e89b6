import Testbench.Json.Numeral

/-!
# Texts and words

A text in quotes is first cut into pieces: characters that stand for themselves, short escapes, and
code units written in four hexadecimal digits.  Cutting stops only at a control character, at an
unknown escape, at a bad digit or at the end of the document.  Reading the text for its value then
pairs up the surrogates among the code units.
-/

namespace Testbench.Json

/-- A piece of a quoted text. -/
inductive Piece where
  /-- A character, written as itself or as a short escape. -/
  | plain (c : Char)
  /-- A code unit written in hexadecimal. -/
  | unit (code : Nat)
  deriving DecidableEq, Repr, Inhabited

/-- The pieces of a quoted text, with what follows the closing quote or why cutting stopped. -/
structure Pieces where
  /-- The pieces in order. -/
  pieces : List Piece
  /-- The text behind the closing quote. -/
  rest : Except Stop (List Char)
  deriving Repr, Inhabited

/-- The value of a hexadecimal digit. -/
def hexDigit? (c : Char) : Option Nat :=
  if c.isDigit then some (c.toNat - '0'.toNat)
  else if 'a' ≤ c ∧ c ≤ 'f' then some (c.toNat - 'a'.toNat + 10)
  else if 'A' ≤ c ∧ c ≤ 'F' then some (c.toNat - 'A'.toNat + 10)
  else none

/-- Do at least `n` bytes follow? -/
def holdsBytes : Nat → List Char → Bool
  | 0, _ => true
  | _ + 1, [] => false
  | n + 1, c :: rest => holdsBytes (n + 1 - c.utf8Size) rest

/-- The code unit that four hexadecimal digits form. -/
def codeUnit? (a b c d : Char) : Option Nat := do
  let high := (← hexDigit? a) * 16 + (← hexDigit? b)
  let low := (← hexDigit? c) * 16 + (← hexDigit? d)
  some (high * 256 + low)

/-- The character that a short escape stands for. -/
def shortEscape? : Char → Option Char
  | '"' => some '"'
  | '\\' => some '\\'
  | '/' => some '/'
  | 'b' => some '\x08'
  | 'f' => some '\x0c'
  | 'n' => some '\n'
  | 'r' => some '\r'
  | 't' => some '\t'
  | _ => none

/-- The same pieces behind one more. -/
def Pieces.after (piece : Piece) (p : Pieces) : Pieces := { p with pieces := piece :: p.pieces }

/-- Cuts a text behind its opening quote. -/
def cut : List Char → Pieces
  | [] => ⟨[], .error .truncated⟩
  | '"' :: rest => ⟨[], .ok rest⟩
  | ['\\'] => ⟨[], .error .truncated⟩
  | '\\' :: 'u' :: rest =>
      if !holdsBytes 4 rest then ⟨[], .error .truncated⟩
      else match rest with
        | a :: b :: c :: d :: rest =>
            match codeUnit? a b c d with
            | some code => (cut rest).after (.unit code)
            | none => ⟨[], .error .malformed⟩
        | _ => ⟨[], .error .malformed⟩
  | '\\' :: c :: rest =>
      match shortEscape? c with
      | some c => (cut rest).after (.plain c)
      | none => ⟨[], .error .malformed⟩
  | c :: rest => if c.toNat < 0x20 then ⟨[], .error .malformed⟩ else (cut rest).after (.plain c)

/-- Is the code unit the first of a surrogate pair? -/
def isLeading (code : Nat) : Bool := 0xD800 ≤ code && code ≤ 0xDBFF

/-- Is the code unit the second of a surrogate pair? -/
def isTrailing (code : Nat) : Bool := 0xDC00 ≤ code && code ≤ 0xDFFF

/-- The characters of the pieces.  `stop` is why cutting stopped, if it did. -/
def pairUp (stop : Option Stop) : List Piece → Except Stop (List Char)
  | [] => match stop with
      | some s => .error s
      | none => .ok []
  | .plain c :: rest => return c :: (← pairUp stop rest)
  | [.unit code] =>
      if isTrailing code then .error .malformed
      else match stop with
        | some s => .error s
        | none => if isLeading code then .error .malformed else .ok [Char.ofNat code]
  | .unit code :: .plain c :: rest =>
      if isLeading code || isTrailing code then .error .malformed
      else return Char.ofNat code :: (← pairUp stop (.plain c :: rest))
  | .unit code :: .unit next :: rest =>
      if isTrailing code then .error .malformed
      else if isLeading code then
        if isTrailing next then
          return Char.ofNat (0x10000 + (code - 0xD800) * 0x400 + (next - 0xDC00))
            :: (← pairUp stop rest)
        else .error .malformed
      else return Char.ofNat code :: (← pairUp stop (.unit next :: rest))

/-- Why cutting stopped, if it did. -/
def Pieces.stop (p : Pieces) : Option Stop :=
  match p.rest with
  | .ok _ => none
  | .error s => some s

/-- The text of the pieces, read for its value. -/
def Pieces.reading (p : Pieces) : Except Stop String := (pairUp p.stop p.pieces).map String.ofList

/-- What follows an expected word, or why the word is not there. -/
def expectWord : List Char → List Char → Except Stop (List Char)
  | [], s => .ok s
  | _ :: _, [] => .error .truncated
  | w :: word, c :: s => if c = w then expectWord word s else .error .malformed

end Testbench.Json
