/-!
# The words of a command line

A command line is a list of words.  The first names the command, and the others are options with
their values.  An option has a long name and sometimes a letter; its value is the next word, or
follows in the same word, behind `=` or directly behind the letter.  Each option may be given once.

Words are read from left to right, so a request for help counts only if nothing before it is wrong.
-/

namespace Testbench.CommandLine

/-- An option of a run. -/
inductive Flag where
  | trace
  | program
  | config
  | uartLog
  | stallLimit
  | maxCycles
  | reportJson
  deriving DecidableEq, Repr, Inhabited

/-- The least number that is no budget: `2 ^ 64`. -/
def budgetBound : Nat := 0x1_0000_0000_0000_0000

/-- The number in decimal digits, perhaps behind a plus sign, if it fits sixty-four bits. -/
def budget? (text : String) : Option Nat :=
  let digits := match text.toList with
    | '+' :: rest => rest
    | all => all
  let value := digits.foldl (fun n c => 10 * n + (c.toNat - '0'.toNat)) 0
  if !digits.isEmpty && digits.all (·.isDigit) && value < budgetBound then some value else none

namespace Flag

/-- Every option. -/
def all : List Flag := [.trace, .program, .config, .uartLog, .stallLimit, .maxCycles, .reportJson]

/-- The long name of an option. -/
def name : Flag → String
  | .trace => "trace"
  | .program => "program"
  | .config => "config"
  | .uartLog => "uart-log"
  | .stallLimit => "stall-limit"
  | .maxCycles => "max-cycles"
  | .reportJson => "report-json"

/-- The letter of an option. -/
def letter : Flag → Option Char
  | .trace => some 't'
  | .program => some 'p'
  | .config => some 'c'
  | .uartLog | .stallLimit | .maxCycles | .reportJson => none

/-- May an option have this value?  Budgets are numbers, everything else is a path. -/
def admits (f : Flag) (value : String) : Bool :=
  match f with
  | .stallLimit | .maxCycles => (budget? value).isSome
  | .trace | .program | .config | .uartLog | .reportJson => value ≠ ""

theorem mem_all (f : Flag) : f ∈ all := by cases f <;> decide

end Flag

/-- What a word is by itself. -/
inductive Token where
  /-- A request for help. -/
  | help
  /-- The end of the options. -/
  | separator
  /-- An option, with its value if that is in the same word. -/
  | option (f : Flag) (value : Option String)
  /-- It looks like an option, but there is no such option. -/
  | stranger
  /-- Anything else. -/
  | plain
  deriving DecidableEq, Repr, Inhabited

namespace Token

/-- An option with a long name, behind its dashes. -/
def ofName (text : List Char) : Token :=
  let name := String.ofList (text.takeWhile (· ≠ '='))
  let value := match text.dropWhile (· ≠ '=') with
    | [] => none
    | _ :: rest => some (String.ofList rest)
  if name = "help" then if value.isNone then .help else .stranger
  else match Flag.all.find? (·.name == name) with
    | some f => .option f value
    | none => .stranger

/-- An option with a letter, behind its dash. -/
def ofLetter (c : Char) (rest : List Char) : Token :=
  if c = 'h' then .help
  else match Flag.all.find? (·.letter == some c), rest with
    | some f, [] => .option f none
    | some f, '=' :: value => .option f (some (String.ofList value))
    | some f, value => .option f (some (String.ofList value))
    | none, _ => .stranger

/-- Reads a word. -/
def ofWord (word : String) : Token :=
  match word.toList with
  | ['-', '-'] => .separator
  | '-' :: '-' :: rest => ofName rest
  | '-' :: c :: rest => ofLetter c rest
  | _ => .plain

end Token

/-- What the words behind the name of the command come to. -/
inductive Options where
  /-- Values for options. -/
  | given (values : List (Flag × String))
  /-- A request for help. -/
  | help
  /-- Something is wrong. -/
  | misuse
  deriving DecidableEq, Repr, Inhabited

/-- May a value be added to those given so far? -/
def isFresh (values : List (Flag × String)) (f : Flag) (value : String) : Bool :=
  (values.lookup f).isNone && f.admits value

/-- Reads options behind those given so far. -/
def Options.read (values : List (Flag × String)) : List String → Options
  | [] => .given values
  | word :: rest =>
      match Token.ofWord word, rest with
      | .help, _ => .help
      | .separator, [] => .given values
      | .option f (some value), rest =>
          if isFresh values f value then read (values ++ [(f, value)]) rest else .misuse
      | .option f none, value :: rest =>
          if Token.ofWord value = .plain ∧ isFresh values f value then
            read (values ++ [(f, value)]) rest
          else .misuse
      | _, _ => .misuse

/-- The arguments of a run. -/
structure Arguments where
  /-- The path of the trace. -/
  trace : String
  /-- The path of the program. -/
  program : String
  /-- The path of the configuration; without one every setting has its default. -/
  config : Option String := none
  /-- The path of the log of the serial port, in place of the configured one. -/
  uartLog : Option String := none
  /-- The idle stretch that is put up with, in place of the configured one. -/
  stallLimit : Option Nat := none
  /-- The cap on cycles, in place of the configured one. -/
  maxCycles : Option Nat := none
  /-- The path to which the report is written. -/
  reportJson : Option String := none
  deriving DecidableEq, Repr, Inhabited

/-- The arguments that values for options form, unless the trace or the program is missing. -/
def Arguments.ofValues? (values : List (Flag × String)) : Option Arguments := do
  let trace ← values.lookup .trace
  let program ← values.lookup .program
  some {
    trace
    program
    config := values.lookup .config
    uartLog := values.lookup .uartLog
    stallLimit := (values.lookup .stallLimit).bind budget?
    maxCycles := (values.lookup .maxCycles).bind budget?
    reportJson := values.lookup .reportJson }

/-- What a command line asks for. -/
inductive Request where
  /-- A run. -/
  | run (arguments : Arguments)
  /-- Information about the command line. -/
  | help
  /-- Nothing that can be done. -/
  | misuse
  deriving DecidableEq, Repr, Inhabited

namespace Request

/-- The request of the words behind the name of the run command. -/
def ofOptions : Options → Request
  | .given values =>
      match Arguments.ofValues? values with
      | some arguments => .run arguments
      | none => .misuse
  | .help => .help
  | .misuse => .misuse

/-- Does a word in front of any command ask for help or for the version? -/
def asksForHelp (word : String) : Bool :=
  word == "--help" || word == "--version"
    || match word.toList with
      | '-' :: c :: _ => c == 'h' || c == 'V'
      | _ => false

/-- Reads a command line. -/
def parse : List String → Request
  | [] => .misuse
  | command :: rest =>
      if command = "run" then ofOptions (Options.read [] rest)
      else if command = "help" then
        if rest = [] ∨ rest = ["run"] ∨ rest = ["help"] then .help else .misuse
      else if asksForHelp command then .help
      else .misuse

end Request

end Testbench.CommandLine
