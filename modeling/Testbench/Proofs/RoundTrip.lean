import Mathlib.Data.List.DropRight
import Testbench.Json.Document
import Testbench.Json.Printer

/-!
# Documents that were printed are read back

Every printed document whose numbers fit sixty-four bits is read as its own tree (`parse_pretty`).
The argument follows the printer.  A numeral ends where no digit, point or exponent follows, and its
digits are gathered into the number that was printed.  A text is cut into one piece for each of its
characters, and the pieces say the characters again.  Lists and records are read part by part:
behind a part stands a comma or a new line and the closing bracket, and neither carries a numeral
on.

The readers count down from twice the length of what is left, and one more for a value or two more
for the parts of a container.  Each part takes at least one character for itself and one for what
follows it, so the count never runs out.
-/

namespace Testbench.Json

/-! ## The tree of a printed document -/

namespace Output

mutual

/-- The tree that a document is read as once it was printed. -/
def node : Output → Node
  | .null => .literal (.ok .null)
  | .bool value => .literal (.ok (.bool value))
  | .natural value => .literal (.ok (.integer value))
  | .text value => .text (.ok value)
  | .list items => .array (nodes items) none
  | .record fields => .object (members fields) none false

/-- The trees of the items of a list. -/
def nodes : List Output → List Node
  | [] => []
  | item :: rest => item.node :: nodes rest

/-- The trees of the fields of a record, with their names. -/
def members : List (String × Output) → List (Except Stop String × Node)
  | [] => []
  | (name, value) :: rest => (.ok name, value.node) :: members rest

end

mutual

/-- The numbers of a document fit sixty-four bits. -/
def Fits : Output → Prop
  | .natural value => value < Numeral.gatherBound
  | .list items => AllFit items
  | .record fields => FieldsFit fields
  | .null | .bool _ | .text _ => True

/-- The numbers of the items of a list fit. -/
def AllFit : List Output → Prop
  | [] => True
  | item :: rest => item.Fits ∧ AllFit rest

/-- The numbers of the fields of a record fit. -/
def FieldsFit : List (String × Output) → Prop
  | [] => True
  | (_, value) :: rest => value.Fits ∧ FieldsFit rest

end

end Output

/-! ## Numerals -/

/-- A numeral in front of this text ends there. -/
def EndsNumeral : List Char → Prop
  | [] => True
  | c :: _ => digit? c = none ∧ c ≠ '.' ∧ c ≠ 'e' ∧ c ≠ 'E'

/-- The values of digits. -/
def digitValues (digits : List Char) : List Nat := digits.map fun c => c.toNat - '0'.toNat

theorem takeDigits_append {digits rest : List Char} (hdigits : ∀ c ∈ digits, c.isDigit = true)
    (hrest : EndsNumeral rest) : takeDigits (digits ++ rest) = (digitValues digits, rest) := by
  induction digits with
  | nil =>
      cases rest with
      | nil => rfl
      | cons c more => simp [takeDigits, hrest.1, digitValues]
  | cons c digits ih =>
      have hc : digit? c = some (c.toNat - '0'.toNat) := by
        rw [digit?, if_pos (hdigits c List.mem_cons_self)]
      rw [List.cons_append, takeDigits, hc]
      simp only [ih fun d hd => hdigits d (List.mem_cons_of_mem _ hd)]
      rfl

theorem le_ofDigitChars (digits : List Char) (n : Nat) : n ≤ Nat.ofDigitChars 10 digits n := by
  induction digits generalizing n with
  | nil => exact Nat.le_refl _
  | cons c digits ih =>
      rw [Nat.ofDigitChars_cons]
      have hrest := ih (10 * n + (c.toNat - '0'.toNat))
      omega

/-- Digits that form a number below the bound are all gathered. -/
theorem gather_digitValues {digits : List Char} {n : Nat}
    (h : Nat.ofDigitChars 10 digits n < Numeral.gatherBound) :
    Numeral.gather n (digitValues digits) = (Nat.ofDigitChars 10 digits n, []) := by
  induction digits generalizing n with
  | nil => rfl
  | cons c digits ih =>
      rw [Nat.ofDigitChars_cons] at h ⊢
      have hle := le_ofDigitChars digits (10 * n + (c.toNat - '0'.toNat))
      have hstep : n * 10 + (c.toNat - '0'.toNat) < Numeral.gatherBound := by omega
      rw [← ih h, Nat.mul_comm 10 n]
      exact if_pos hstep

/-- The digits of a number do not begin with a zero, unless it is all of them. -/
theorem exists_toDigits_eq_cons (n : Nat) :
    ∃ c more, Nat.toDigits 10 n = c :: more ∧ (c.toNat - '0'.toNat = 0 → more = []) := by
  induction n using Nat.strongRecOn with
  | ind n ih =>
      rcases Nat.lt_or_ge n 10 with hlt | hge
      · exact ⟨_, [], Nat.toDigits_of_lt_base hlt, fun _ => rfl⟩
      · obtain ⟨c, more, hdigits, hzero⟩ := ih (n / 10) (by omega)
        refine ⟨c, more ++ [Nat.digitChar (n % 10)], ?_, ?_⟩
        · rw [Nat.toDigits_of_base_le (by decide) hge, hdigits, List.cons_append]
        · intro hc
          have hsmall : Nat.ofDigitChars 10 (Nat.toDigits 10 (n / 10)) 0 = 0 := by
            rw [hdigits, hzero hc, Nat.ofDigitChars_cons, hc]
            rfl
          rw [Nat.ofDigitChars_ten_toDigits] at hsmall
          omega

theorem isDigit_of_toDigits_eq_cons {n : Nat} {c : Char} {more : List Char}
    (h : Nat.toDigits 10 n = c :: more) : c.isDigit = true :=
  Nat.isDigit_of_mem_toDigits (by decide) (by decide) (h ▸ List.mem_cons_self)

theorem scanTail_of_endsNumeral {rest : List Char} (h : EndsNumeral rest) (m : Numeral) :
    Numeral.scanTail m rest = .ok (m, rest) := by
  cases rest with
  | nil => rfl
  | cons c more =>
      obtain ⟨-, -, hlower, hupper⟩ := h
      simp [Numeral.scanTail, hlower, hupper]

/-- A number that was printed is scanned as its digits. -/
theorem scan_toDigits (n : Nat) {rest : List Char} (hrest : EndsNumeral rest) :
    Numeral.scan (Nat.toDigits 10 n ++ rest)
      = .ok ({ whole := digitValues (Nat.toDigits 10 n) }, rest) := by
  obtain ⟨c, more, hdigits, hzero⟩ := exists_toDigits_eq_cons n
  rw [Numeral.scan, takeDigits_append
    (fun c hc => Nat.isDigit_of_mem_toDigits (by decide) (by decide) hc) hrest, hdigits]
  split
  · rename_i hnone
    cases hnone
  · rename_i hleading
    obtain ⟨hvalues, -⟩ := Prod.mk.inj hleading
    obtain ⟨hc, hmore⟩ := List.cons.inj hvalues
    rw [hzero hc] at hmore
    cases hmore
  · rename_i hpoint
    obtain ⟨-, rfl⟩ := Prod.mk.inj hpoint
    exact absurd rfl hrest.2.1
  · rename_i hplain
    cases hplain
    exact scanTail_of_endsNumeral hrest _

/-- **A number that was printed is read as the number.** -/
theorem readNumber_toDigits {n : Nat} (hn : n < Numeral.gatherBound) {rest : List Char}
    (hrest : EndsNumeral rest) :
    readNumber false (Nat.toDigits 10 n ++ rest) = ⟨.literal (.ok (.integer n)), .ok rest⟩ := by
  have hgather : Numeral.gather 0 (digitValues (Nat.toDigits 10 n)) = (n, []) := by
    rw [gather_digitValues (by rwa [Nat.ofDigitChars_ten_toDigits]), Nat.ofDigitChars_ten_toDigits]
  have hvalue : Numeral.literal? false { whole := digitValues (Nat.toDigits 10 n) }
      = some (.integer n) := by
    simp [Numeral.literal?, hgather]
  rw [readNumber, scan_toDigits n hrest]
  simp only [hvalue]

/-! ## Texts -/

/-- The characters that are printed as a backslash and one more character. -/
def shortEscapes : List Char := ['"', '\\', '\x08', '\t', '\n', '\x0c', '\r']

/-- The piece that a printed character is cut into. -/
def pieceOf (c : Char) : Piece :=
  if c.toNat < 0x20 ∧ c ∉ shortEscapes then .unit c.toNat else .plain c

theorem cut_of_short {c : Char} (h : c ∈ shortEscapes) (more : List Char) :
    cut ((escapeChar c).toList ++ more) = (cut more).after (.plain c) := by
  simp only [shortEscapes, List.mem_cons, List.not_mem_nil, or_false] at h
  rcases h with rfl | rfl | rfl | rfl | rfl | rfl | rfl <;> rfl

theorem escapeChar_of_not_short {c : Char} (h : c ∉ shortEscapes) :
    escapeChar c = if c.toNat < 0x20 then "\\u" ++ Text.padLeft 4 '0' (Text.hexDigits c.toNat)
      else String.singleton c := by
  simp only [shortEscapes, List.mem_cons, List.not_mem_nil, or_false, not_or] at h
  simp only [escapeChar, h, if_false]

/-- A code below thirty-two has two digits behind two zeros. -/
theorem toList_padLeft_hexDigits {n : Nat} (h : n < 0x20) :
    (Text.padLeft 4 '0' (Text.hexDigits n)).toList
      = ['0', '0', Nat.digitChar (n / 16), Nat.digitChar (n % 16)] := by
  rw [Text.padLeft, Text.repeated, Text.hexDigits, String.toList_append, String.toList_ofList,
    String.toList_ofList, String.length_ofList]
  rcases Nat.lt_or_ge n 16 with hlt | hge
  · rw [Nat.toDigits_of_lt_base hlt, Nat.div_eq_of_lt hlt, Nat.mod_eq_of_lt hlt]
    rfl
  · rw [Nat.toDigits_of_base_le (by decide) hge, Nat.toDigits_of_lt_base (by omega)]
    rfl

theorem hexDigit?_digitChar : ∀ k < 16, hexDigit? (Nat.digitChar k) = some k := by decide

theorem utf8Size_digitChar : ∀ k < 16, (Nat.digitChar k).utf8Size = 1 := by decide

/-- The code of a control character is cut into one code unit. -/
theorem cut_unit {n : Nat} (h : n < 0x20) (more : List Char) :
    cut (("\\u" ++ Text.padLeft 4 '0' (Text.hexDigits n)).toList ++ more)
      = (cut more).after (.unit n) := by
  have hhigh : n / 16 < 16 := by omega
  have hlow : n % 16 < 16 := by omega
  have hholds : holdsBytes 4
      ('0' :: '0' :: Nat.digitChar (n / 16) :: Nat.digitChar (n % 16) :: more)
      = true := by
    show holdsBytes 2 (Nat.digitChar (n / 16) :: Nat.digitChar (n % 16) :: more) = true
    rw [holdsBytes, utf8Size_digitChar _ hhigh]
    show holdsBytes 1 (Nat.digitChar (n % 16) :: more) = true
    rw [holdsBytes, utf8Size_digitChar _ hlow]
    exact holdsBytes.eq_1 more
  have hcode : codeUnit? '0' '0' (Nat.digitChar (n / 16)) (Nat.digitChar (n % 16)) = some n := by
    have hzero : hexDigit? '0' = some 0 := rfl
    rw [codeUnit?, hzero, hexDigit?_digitChar _ hhigh, hexDigit?_digitChar _ hlow]
    show some (0 * 256 + (n / 16 * 16 + n % 16)) = some n
    rw [Option.some.injEq]
    omega
  rw [String.toList_append, toList_padLeft_hexDigits h]
  show cut ('\\' :: 'u' :: '0' :: '0' :: Nat.digitChar (n / 16) :: Nat.digitChar (n % 16)
    :: more) = _
  rw [cut, hholds, if_neg (by decide)]
  simp only [hcode]

theorem cut_escapeChar (c : Char) (more : List Char) :
    cut ((escapeChar c).toList ++ more) = (cut more).after (pieceOf c) := by
  unfold pieceOf
  by_cases hshort : c ∈ shortEscapes
  · rw [cut_of_short hshort, if_neg (fun h => h.2 hshort)]
  rw [escapeChar_of_not_short hshort]
  by_cases hcontrol : c.toNat < 0x20
  · rw [if_pos hcontrol, if_pos ⟨hcontrol, hshort⟩, cut_unit hcontrol]
  · rw [if_neg hcontrol, if_neg (fun h => hcontrol h.1), String.toList_singleton]
    show cut (c :: more) = _
    have hquote : c ≠ '"' := by
      rintro rfl
      exact hshort (by decide)
    have hbackslash : c ≠ '\\' := by
      rintro rfl
      exact hshort (by decide)
    rw [cut, if_neg hcontrol]
    · exact hquote
    · exact fun hc _ => hbackslash hc
    · exact fun _ hc _ => hbackslash hc
    · exact fun _ _ hc _ => hbackslash hc

/-- A printed text is cut into one piece for each character. -/
theorem cut_escape (text : List Char) (rest : List Char) :
    cut (text.flatMap (fun c => (escapeChar c).toList) ++ '"' :: rest)
      = ⟨text.map pieceOf, .ok rest⟩ := by
  induction text with
  | nil => rfl
  | cons c text ih =>
      rw [List.flatMap_cons, List.append_assoc, cut_escapeChar, ih]
      rfl

/-- A code unit that is no surrogate stands for its character, whatever comes next. -/
theorem pairUp_unit {code : Nat} (h : code < 0xD800) (pieces : List Piece) :
    pairUp none (.unit code :: pieces)
      = (pairUp none pieces).map fun text => Char.ofNat code :: text := by
  have hleading : isLeading code = false := by simp [isLeading]; omega
  have htrailing : isTrailing code = false := by simp [isTrailing]; omega
  cases pieces with
  | nil => simp [pairUp, hleading, htrailing, Except.map]
  | cons piece more =>
      cases piece with
      | plain c =>
          simp only [pairUp, hleading, htrailing]
          cases pairUp none more <;> rfl
      | unit next =>
          rw [pairUp, hleading, htrailing]
          cases pairUp none (.unit next :: more) <;> rfl

/-- The pieces of a text say its characters. -/
theorem pairUp_map_pieceOf (text : List Char) : pairUp none (text.map pieceOf) = .ok text := by
  induction text with
  | nil => rfl
  | cons c text ih =>
      rw [List.map_cons]
      by_cases hunit : c.toNat < 0x20 ∧ c ∉ shortEscapes
      · rw [pieceOf, if_pos hunit, pairUp_unit (by omega), ih, Char.ofNat_toNat]
        rfl
      · rw [pieceOf, if_neg hunit, pairUp, ih]
        rfl

theorem toList_escape (s : String) :
    (escape s).toList = '"' :: (s.toList.flatMap (fun c => (escapeChar c).toList) ++ ['"']) := by
  rw [escape, String.toList_append, String.toList_append, String.toList_join, List.flatMap_map]
  rfl

/-- **A text that was printed is read as the text**, and what follows it is left. -/
theorem cut_toList_escape (s : String) (rest : List Char) :
    (cut (s.toList.flatMap (fun c => (escapeChar c).toList) ++ '"' :: rest)).reading = .ok s
      ∧ (cut (s.toList.flatMap (fun c => (escapeChar c).toList) ++ '"' :: rest)).rest
        = .ok rest := by
  rw [cut_escape]
  refine ⟨?_, rfl⟩
  show (pairUp none (s.toList.map pieceOf)).map String.ofList = _
  rw [pairUp_map_pieceOf]
  exact congrArg Except.ok String.ofList_toList

/-! ## Blanks and what begins a value -/

theorem skipBlanks_append {blanks : List Char} (h : ∀ c ∈ blanks, isBlank c = true)
    (s : List Char) :
    skipBlanks (blanks ++ s) = skipBlanks s := by
  induction blanks with
  | nil => rfl
  | cons c blanks ih =>
      rw [skipBlanks, List.cons_append, List.dropWhile_cons, if_pos (h c List.mem_cons_self)]
      exact ih fun d hd => h d (List.mem_cons_of_mem _ hd)

theorem skipBlanks_cons {c : Char} (h : isBlank c = false) (s : List Char) :
    skipBlanks (c :: s) = c :: s := by
  rw [skipBlanks, List.dropWhile_cons, h]
  rfl

theorem toList_newline (level : Nat) :
    (Output.newline level).toList = '\n' :: List.replicate (2 * level) ' ' := by
  rw [Output.newline, String.toList_append, Text.repeated, String.toList_ofList,
    String.toList_ofList]
  rfl

theorem isBlank_of_mem_newline (level : Nat) :
    ∀ c ∈ (Output.newline level).toList, isBlank c = true := by
  rw [toList_newline]
  intro c hc
  rcases List.mem_cons.1 hc with rfl | hspace
  · rfl
  · rw [List.eq_of_mem_replicate hspace]
    rfl

/-- A text begins with a character that is neither a blank nor a closing bracket. -/
def Opens : List Char → Prop
  | [] => False
  | c :: _ => isBlank c = false ∧ c ≠ ']'

theorem skipBlanks_of_opens {s : List Char} (h : Opens s) : skipBlanks s = s := by
  cases s with
  | nil => cases h
  | cons c more => exact skipBlanks_cons h.1 more

theorem toList_pretty_natural (value level : Nat) :
    ((Output.natural value).pretty level).toList = Nat.toDigits 10 value := by
  rw [Output.pretty, Nat.toString_eq_ofList_toDigits, String.toList_ofList]

theorem toList_pretty_list (item : Output) (more : List Output) (level : Nat) :
    ((Output.list (item :: more)).pretty level).toList
      = '[' :: ((String.intercalate "," (Output.prettyItems (level + 1) (item :: more))).toList
          ++ ((Output.newline level).toList ++ [']'])) := by
  rw [Output.pretty, String.append_assoc, String.append_assoc, String.toList_append,
    String.toList_append, String.toList_append]
  rfl

theorem toList_pretty_record (field : String × Output) (more : List (String × Output))
    (level : Nat) :
    ((Output.record (field :: more)).pretty level).toList
      = '\x7b' :: ((String.intercalate "," (Output.prettyFields (level + 1) (field :: more))).toList
          ++ ((Output.newline level).toList ++ ['\x7d'])) := by
  rw [Output.pretty, String.append_assoc, String.append_assoc, String.toList_append,
    String.toList_append, String.toList_append]
  rfl

theorem isBlank_of_isDigit {c : Char} (h : c.isDigit = true) : isBlank c = false ∧ c ≠ ']' := by
  constructor
  · cases hblank : isBlank c with
    | false => rfl
    | true =>
        simp only [isBlank, Bool.or_eq_true, beq_iff_eq] at hblank
        rcases hblank with ((rfl | rfl) | rfl) | rfl <;> cases h
  · rintro rfl
    cases h

/-- Every printed document begins in this way. -/
theorem opens_pretty (o : Output) (level : Nat) (rest : List Char) :
    Opens ((o.pretty level).toList ++ rest) := by
  cases o with
  | null =>
      rw [Output.pretty]
      exact (by decide : isBlank 'n' = false ∧ 'n' ≠ ']')
  | bool value =>
      cases value with
      | false =>
          rw [Output.pretty]
          exact (by decide : isBlank 'f' = false ∧ 'f' ≠ ']')
      | true =>
          rw [Output.pretty]
          exact (by decide : isBlank 't' = false ∧ 't' ≠ ']')
  | natural value =>
      obtain ⟨c, more, hdigits, -⟩ := exists_toDigits_eq_cons value
      rw [toList_pretty_natural, hdigits]
      exact isBlank_of_isDigit (isDigit_of_toDigits_eq_cons hdigits)
  | text value =>
      rw [Output.pretty, toList_escape]
      exact (by decide : isBlank '"' = false ∧ '"' ≠ ']')
  | list items =>
      cases items with
      | nil =>
          rw [Output.pretty]
          exact (by decide : isBlank '[' = false ∧ '[' ≠ ']')
      | cons item more =>
          rw [toList_pretty_list]
          exact (by decide : isBlank '[' = false ∧ '[' ≠ ']')
  | record fields =>
      cases fields with
      | nil =>
          rw [Output.pretty]
          exact (by decide : isBlank '\x7b' = false ∧ '\x7b' ≠ ']')
      | cons field more =>
          rw [toList_pretty_record]
          exact (by decide : isBlank '\x7b' = false ∧ '\x7b' ≠ ']')

/-! ## Parts of containers -/

/-- Reading a value begins behind the blanks. -/
theorem readNode_skipBlanks (fuel : Nat) (s : List Char) :
    readNode fuel (skipBlanks s) = readNode fuel s := by
  have hskip : skipBlanks (skipBlanks s) = skipBlanks s := List.dropWhile_idempotent isBlank s
  cases fuel with
  | zero => rw [readNode, readNode]
  | succ fuel => rw [readNode, readNode, hskip]

section

variable {fuel level : Nat} {mayClose : Bool} {value rest : List Char} {node : Node}

theorem continueParts_comma {α : Type} {close : Char} (h : close ≠ ',')
    (more : List Char → Parts α) (s : List Char) :
    continueParts close more (.ok (',' :: s)) = more s := by
  have hcomma : skipBlanks (',' :: s) = ',' :: s := skipBlanks_cons rfl s
  simp only [continueParts, hcomma, if_neg h.symm, if_true]

theorem continueParts_close {α : Type} {close : Char} (h : isBlank close = false)
    (more : List Char → Parts α) (s : List Char) :
    continueParts close more (.ok ((Output.newline level).toList ++ close :: s))
      = { parts := [], rest := .ok s } := by
  have hskip : skipBlanks ((Output.newline level).toList ++ close :: s) = close :: s := by
    rw [skipBlanks_append (isBlank_of_mem_newline level), skipBlanks_cons h]
  simp only [continueParts, hskip, if_true]

/-- An item on a line of its own is read, whether or not the list could have ended before it. -/
theorem readItems_item (hopens : Opens (value ++ rest))
    (hvalue : readNode fuel (value ++ rest) = ⟨node, .ok rest⟩) :
    readItems (fuel + 1) mayClose ((Output.newline level).toList ++ (value ++ rest))
      = (continueParts ']' (readItems fuel false) (.ok rest)).after node := by
  have hskip : skipBlanks ((Output.newline level).toList ++ (value ++ rest)) = value ++ rest := by
    rw [skipBlanks_append (isBlank_of_mem_newline level), skipBlanks_of_opens hopens]
  have hread : readItems (fuel + 1) mayClose ((Output.newline level).toList ++ (value ++ rest))
      = (continueParts ']' (readItems fuel false) (readNode fuel (value ++ rest)).rest).after
          (readNode fuel (value ++ rest)).node := by
    rw [readItems, hskip]
    · rw [hskip]
      rintro hnil -
      rw [hnil] at hopens
      exact hopens
    · rw [hskip]
      rintro s hclose -
      rw [hclose] at hopens
      exact hopens.2 rfl
  rw [hread, hvalue]

/-- A field on a line of its own is read. -/
theorem readMembers_field (name : String)
    (hvalue : readNode fuel (value ++ rest) = ⟨node, .ok rest⟩) :
    readMembers (fuel + 1) mayClose
        ((Output.newline level).toList ++ ((escape name).toList ++ ':' :: ' ' :: (value ++ rest)))
      = (continueParts '\x7d' (readMembers fuel false) (.ok rest)).after (.ok name, node) := by
  obtain ⟨hkey, hrest⟩ := cut_toList_escape name (':' :: ' ' :: (value ++ rest))
  have hspace : readNode fuel (' ' :: (value ++ rest)) = ⟨node, .ok rest⟩ := by
    rw [← readNode_skipBlanks, ← hvalue, ← readNode_skipBlanks fuel (value ++ rest)]
    rfl
  have hskip : skipBlanks
      ((Output.newline level).toList ++ ((escape name).toList ++ ':' :: ' ' :: (value ++ rest)))
      = '"' :: (name.toList.flatMap (fun c => (escapeChar c).toList)
          ++ '"' :: ':' :: ' ' :: (value ++ rest)) := by
    rw [skipBlanks_append (isBlank_of_mem_newline level), toList_escape, List.cons_append,
      skipBlanks_cons rfl, List.append_assoc]
    rfl
  unfold readMembers
  rw [hskip]
  have hcolon : skipBlanks (':' :: ' ' :: (value ++ rest)) = ':' :: ' ' :: (value ++ rest) :=
    skipBlanks_cons rfl _
  simp only [hkey, hrest, Except.map, hcolon, hspace]

end

/-! ## Documents -/

theorem readNode_bracket (fuel : Nat) (s : List Char) : readNode (fuel + 1) ('[' :: s)
    = ⟨.array (readItems fuel true s).parts (readItems fuel true s).stop,
        (readItems fuel true s).rest⟩ := by
  rw [readNode, skipBlanks_cons rfl]
  rfl

theorem readNode_brace (fuel : Nat) (s : List Char) : readNode (fuel + 1) ('\x7b' :: s)
    = ⟨.object (readMembers fuel true s).parts (readMembers fuel true s).stop
        (readMembers fuel true s).keyDue, (readMembers fuel true s).rest⟩ := by
  rw [readNode, skipBlanks_cons rfl]
  rfl

theorem readNode_digit (fuel : Nat) {c : Char} (h : c.isDigit = true) (s : List Char) :
    readNode (fuel + 1) (c :: s) = readNumber false (c :: s) := by
  have hother : ∀ d : Char, d.isDigit = false → c ≠ d := by
    rintro d hd rfl
    rw [h] at hd
    cases hd
  rw [readNode, skipBlanks_cons (isBlank_of_isDigit h).1]
  split
  · rename_i hnil
    cases hnil
  -- the brackets, the quote, the sign and the first letters of the three words
  iterate 7
    · rename_i hfirst
      exact absurd (List.cons.inj hfirst).1 (hother _ rfl)
  · rename_i hfirst
    obtain ⟨rfl, rfl⟩ := List.cons.inj hfirst
    exact if_pos h

theorem readNode_escape (fuel : Nat) (value : String) (rest : List Char) :
    readNode (fuel + 1) ((escape value).toList ++ rest) = ⟨.text (.ok value), .ok rest⟩ := by
  obtain ⟨hreading, hrest⟩ := cut_toList_escape value rest
  rw [toList_escape, List.cons_append, readNode, skipBlanks_cons rfl, List.append_assoc]
  show readText _ = _
  rw [readText]
  exact congrArg₂ (fun reading rest => Reading.mk (.text reading) rest) hreading hrest

theorem endsNumeral_newline (level : Nat) (s : List Char) :
    EndsNumeral ((Output.newline level).toList ++ s) := by
  rw [toList_newline]
  exact (by decide : digit? '\n' = none ∧ '\n' ≠ '.' ∧ '\n' ≠ 'e' ∧ '\n' ≠ 'E')

theorem endsNumeral_comma (s : List Char) : EndsNumeral (',' :: s) :=
  (by decide : digit? ',' = none ∧ ',' ≠ '.' ∧ ',' ≠ 'e' ∧ ',' ≠ 'E')

/-- The lines of a list, the first of them apart. -/
theorem toList_lines (line : String) {more : List String} (h : more ≠ []) (rest : List Char) :
    (String.intercalate "," (line :: more)).toList ++ rest
      = line.toList ++ ',' :: ((String.intercalate "," more).toList ++ rest) := by
  rw [String.intercalate_cons_of_ne_nil h, String.toList_append, String.toList_append,
    List.append_assoc, List.append_assoc]
  rfl

/-- A line of a record. -/
theorem toList_field (name : String) (value : Output) (level : Nat) (rest : List Char) :
    (Output.newline level ++ escape name ++ ": " ++ value.pretty level).toList ++ rest
      = (Output.newline level).toList
        ++ ((escape name).toList ++ ':' :: ' ' :: ((value.pretty level).toList ++ rest)) := by
  rw [String.toList_append, String.toList_append, String.toList_append, List.append_assoc,
    List.append_assoc, List.append_assoc]
  rfl

mutual

/-- **A printed value is read as its tree**, and what follows it is left. -/
theorem readNode_pretty (o : Output) (hfits : o.Fits) (level fuel : Nat) {rest : List Char}
    (hrest : EndsNumeral rest) (hfuel : 2 * ((o.pretty level).toList ++ rest).length < fuel) :
    readNode fuel ((o.pretty level).toList ++ rest) = ⟨o.node, .ok rest⟩ := by
  match fuel, o with
  | 0, _ => cases hfuel
  | fuel + 1, .null =>
      rw [Output.pretty, Output.node]
      rfl
  | fuel + 1, .bool value =>
      rw [Output.pretty, Output.node]
      cases value <;> rfl
  | fuel + 1, .natural value =>
      rw [Output.Fits] at hfits
      obtain ⟨c, more, hdigits, -⟩ := exists_toDigits_eq_cons value
      rw [Output.node, toList_pretty_natural, ← readNumber_toDigits hfits hrest, hdigits]
      exact readNode_digit fuel (isDigit_of_toDigits_eq_cons hdigits) _
  | fuel + 1, .text value =>
      rw [Output.pretty, Output.node, readNode_escape]
  | fuel + 1, .list [] =>
      rw [Output.pretty] at hfuel ⊢
      match fuel with
      | 0 => exact absurd hfuel (by simp)
      | fuel + 1 => rw [Output.node, Output.nodes]; rfl
  | fuel + 1, .list (item :: more) =>
      rw [Output.Fits] at hfits
      rw [toList_pretty_list, List.cons_append, List.append_assoc, List.append_assoc,
        List.singleton_append] at hfuel ⊢
      rw [List.length_cons] at hfuel
      rw [readNode_bracket, readItems_pretty (item :: more) (List.cons_ne_nil _ _) hfits
        (level + 1) fuel level true rest (by omega), Output.node]
  | fuel + 1, .record [] =>
      rw [Output.pretty] at hfuel ⊢
      match fuel with
      | 0 => exact absurd hfuel (by simp)
      | fuel + 1 => rw [Output.node, Output.members]; rfl
  | fuel + 1, .record (field :: more) =>
      rw [Output.Fits] at hfits
      rw [toList_pretty_record, List.cons_append, List.append_assoc, List.append_assoc,
        List.singleton_append] at hfuel ⊢
      rw [List.length_cons] at hfuel
      rw [readNode_brace, readMembers_pretty (field :: more) (List.cons_ne_nil _ _) hfits
        (level + 1) fuel level true rest (by omega), Output.node]

/-- The items of a list are read up to the closing bracket. -/
theorem readItems_pretty (items : List Output) (hne : items ≠ []) (hfits : Output.AllFit items)
    (level fuel outer : Nat) (mayClose : Bool) (rest : List Char)
    (hfuel : 2 * ((String.intercalate "," (Output.prettyItems level items)).toList
      ++ ((Output.newline outer).toList ++ ']' :: rest)).length + 1 < fuel) :
    readItems fuel mayClose ((String.intercalate "," (Output.prettyItems level items)).toList
      ++ ((Output.newline outer).toList ++ ']' :: rest))
      = { parts := Output.nodes items, rest := .ok rest } := by
  match fuel, items with
  | 0, _ => cases hfuel
  | fuel + 1, [] => exact absurd rfl hne
  | fuel + 1, [item] =>
      obtain ⟨hitem, -⟩ := hfits
      rw [Output.prettyItems, Output.prettyItems, String.intercalate_singleton,
        String.toList_append, List.append_assoc] at hfuel ⊢
      rw [List.length_append] at hfuel
      rw [readItems_item (opens_pretty item level _)
        (readNode_pretty item hitem level fuel (endsNumeral_newline outer _) (by omega)),
        continueParts_close rfl]
      rfl
  | fuel + 1, item :: next :: more =>
      obtain ⟨hitem, hmore⟩ := hfits
      have hlines : Output.prettyItems level (next :: more) ≠ [] := by
        rw [Output.prettyItems]
        exact List.cons_ne_nil _ _
      rw [Output.prettyItems, toList_lines _ hlines, String.toList_append, List.append_assoc]
        at hfuel ⊢
      rw [List.length_append] at hfuel
      rw [readItems_item (opens_pretty item level _)
        (readNode_pretty item hitem level fuel (endsNumeral_comma _) (by omega)),
        continueParts_comma (by decide), readItems_pretty (next :: more) (List.cons_ne_nil _ _)
          hmore level fuel outer false rest
          (by rw [List.length_append, List.length_cons] at hfuel; omega)]
      rfl

/-- The fields of a record are read up to the closing brace. -/
theorem readMembers_pretty (fields : List (String × Output)) (hne : fields ≠ [])
    (hfits : Output.FieldsFit fields) (level fuel outer : Nat) (mayClose : Bool) (rest : List Char)
    (hfuel : 2 * ((String.intercalate "," (Output.prettyFields level fields)).toList
      ++ ((Output.newline outer).toList ++ '\x7d' :: rest)).length + 1 < fuel) :
    readMembers fuel mayClose ((String.intercalate "," (Output.prettyFields level fields)).toList
      ++ ((Output.newline outer).toList ++ '\x7d' :: rest))
      = { parts := Output.members fields, rest := .ok rest } := by
  match fuel, fields with
  | 0, _ => cases hfuel
  | fuel + 1, [] => exact absurd rfl hne
  | fuel + 1, [(name, value)] =>
      obtain ⟨hvalue, -⟩ := hfits
      rw [Output.prettyFields, Output.prettyFields, String.intercalate_singleton, toList_field]
        at hfuel ⊢
      rw [List.length_append, List.length_append, List.length_cons, List.length_cons] at hfuel
      rw [readMembers_field name
        (readNode_pretty value hvalue level fuel (endsNumeral_newline outer _) (by omega)),
        continueParts_close rfl]
      rfl
  | fuel + 1, (name, value) :: next :: more =>
      obtain ⟨hvalue, hmore⟩ := hfits
      have hlines : Output.prettyFields level (next :: more) ≠ [] := by
        rw [Output.prettyFields]
        exact List.cons_ne_nil _ _
      rw [Output.prettyFields, toList_lines _ hlines, toList_field] at hfuel ⊢
      rw [List.length_append, List.length_append, List.length_cons, List.length_cons] at hfuel
      rw [readMembers_field name
        (readNode_pretty value hvalue level fuel (endsNumeral_comma _) (by omega)),
        continueParts_comma (by decide), readMembers_pretty (next :: more) (List.cons_ne_nil _ _)
          hmore level fuel outer false rest
          (by rw [List.length_append, List.length_cons] at hfuel; omega)]
      rfl

end

end Testbench.Json
