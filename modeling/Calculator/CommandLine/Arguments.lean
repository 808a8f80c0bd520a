import Calculator.Number.Operand

/-!
# Command line arguments

How the words of a command line become the arguments of the program. At most one word is the
expression; the others are options and their values. An expression may well begin with a hyphen
(`-5+3`), so a word that does is taken for an option only if it can be one:

* after the word `--` every word is the expression;
* `--name` and `--name=value` are an option if there is one of that name;
* `-xyz` stands for the options `-x`, `-y` and `-z`, the rest of the word after an option that
  takes a value being its value. As long as there is no expression yet, this is so only if all
  letters are options; after that, the first letter that is none is an error.

Any other word is the value of the option that waits for one, or else the expression. To an operand
that waits, a negative number is its value whatever its letters.

What the words say is checked in two parts: `Scan` reads them one by one (values that cannot be
read, options given twice, values that are missing), and `Arguments.complete` asks at the end
whether the arguments belong together.
-/

namespace Calculator.CommandLine

-- powers are those of core, whatever other instances are in sight
attribute [local instance (high)] instPowNat

/-! ## 1. Options -/

/-- The options that take a value. -/
inductive Setting where
  | operation
  | a
  | b
  | digits
  deriving DecidableEq, Repr

/-- The options that take none. A log can be asked for more than once, for more detail; it changes
    no answer. -/
inductive Flag where
  | log
  | version
  | help
  deriving DecidableEq, Repr

/-- An option, of either kind. -/
inductive Opt where
  | setting (setting : Setting)
  | flag (flag : Flag)
  deriving DecidableEq, Repr

/-- The option of a long name. -/
def Opt.ofName? : String → Option Opt
  | "operation" => some (.setting .operation)
  | "a" => some (.setting .a)
  | "b" => some (.setting .b)
  | "digits" => some (.setting .digits)
  | "verbose" => some (.flag .log)
  | "version" => some (.flag .version)
  | "help" => some (.flag .help)
  | _ => none

/-- The option of a single letter. -/
def Opt.ofLetter? : Char → Option Opt
  | 'a' => some (.setting .a)
  | 'b' => some (.setting .b)
  | 'v' => some (.flag .log)
  | 'V' => some (.flag .version)
  | 'h' => some (.flag .help)
  | _ => none

/-! ## 2. Arguments -/

/-- What a command line asks for. The verbosity is how often it asks for a log. -/
structure Arguments where
  expression : Option String
  operation : Option String
  a : Option Float
  b : Option Float
  digits : Option Nat
  verbosity : Nat
  deriving DecidableEq

/-- No argument is given. -/
def Arguments.none : Arguments :=
  ⟨.none, .none, .none, .none, .none, 0⟩

/-- Why there are no arguments to act on: the words are not good, or ask for a text instead. -/
inductive Stop where
  | badUsage
  | version
  | help
  deriving DecidableEq, Repr

/-- A count of decimals: digits, with a plus in front if wanted, below 2⁶⁴. -/
def count? (text : String) : Option Nat :=
  let digits := match text.toList with
    | '+' :: rest => rest
    | rest => rest
  if digits.isEmpty || !digits.all Char.isDigit then .none
  else
    let n := Nat.ofDigitChars 10 digits 0
    if n < 2 ^ (64 : Nat) then some n else .none

namespace Arguments

/-- The arguments with a setting, which must not be set already and must have a readable value. -/
def set (args : Arguments) (setting : Setting) (text : String) : Except Stop Arguments :=
  match setting with
  | .operation =>
    if args.operation.isSome then .error .badUsage else .ok { args with operation := some text }
  | .a =>
    match Number.operand? text with
    | some x => if args.a.isSome then .error .badUsage else .ok { args with a := some x }
    | .none => .error .badUsage
  | .b =>
    match Number.operand? text with
    | some x => if args.b.isSome then .error .badUsage else .ok { args with b := some x }
    | .none => .error .badUsage
  | .digits =>
    match count? text with
    | some n =>
      if args.digits.isSome then .error .badUsage else .ok { args with digits := some n }
    | .none => .error .badUsage

/-- The arguments with the expression, which must not be given already. -/
def setExpression (args : Arguments) (text : String) : Except Stop Arguments :=
  if args.expression.isSome then .error .badUsage
  else .ok { args with expression := some text }

/-- The arguments with a log asked for so many times more. -/
def louder (args : Arguments) (times : Nat) : Arguments :=
  { args with verbosity := args.verbosity + times }

/-- The arguments belong together. An expression excludes an operation. Operands need an operation,
    unless an expression excludes it; and an operation or a second operand needs the first. -/
def complete (args : Arguments) : Bool :=
  let given := args.expression.isSome
  !(given && args.operation.isSome) &&
    (given || args.operation.isSome || !(args.a.isSome || args.b.isSome)) &&
    (args.a.isSome || !(args.operation.isSome || args.b.isSome))

end Arguments

/-! ## 3. Reading the words -/

/-- The state between two words: the arguments so far, the setting that waits for its value, and
    whether every word to come is the expression. -/
structure Scan where
  args : Arguments
  awaiting : Option Setting
  wordsOnly : Bool
  deriving DecidableEq

namespace Scan

/-- Before the first word. -/
def start : Scan :=
  ⟨.none, .none, false⟩

/-- A setting now waits for its value. -/
def await (scan : Scan) (setting : Setting) : Except Stop Scan :=
  if scan.awaiting.isSome then .error .badUsage
  else .ok { scan with awaiting := some setting }

/-- A setting is given together with its value. -/
def assign (scan : Scan) (setting : Setting) (text : List Char) : Except Stop Scan :=
  if scan.awaiting.isSome then .error .badUsage
  else do return { scan with args := ← scan.args.set setting (String.ofList text) }

/-- A flag is given. -/
def raise (scan : Scan) (flag : Flag) : Except Stop Scan :=
  if scan.awaiting.isSome then .error .badUsage
  else match flag with
    | .log => .ok { scan with args := scan.args.louder 1 }
    | .version => .error .version
    | .help => .error .help

/-- A word that is no option: the value that is waited for, or the expression. -/
def word (scan : Scan) (text : String) : Except Stop Scan :=
  match scan.awaiting with
  | some setting => do
    return { scan with args := ← scan.args.set setting text, awaiting := .none }
  | .none => do return { scan with args := ← scan.args.setExpression text }

/-- A word that begins with hyphens and is no option. -/
def unknown (scan : Scan) (text : String) : Except Stop Scan :=
  if scan.args.expression.isSome then .error .badUsage else scan.word text

/-- A word `--name` or `--name=value`, given without the hyphens. -/
def long (scan : Scan) (text : String) (rest : List Char) : Except Stop Scan :=
  match Opt.ofName? (String.ofList (rest.takeWhile (· != '='))), rest.dropWhile (· != '=') with
  | some (.setting setting), [] => scan.await setting
  | some (.setting setting), _ :: value => scan.assign setting value
  | some (.flag flag), [] => scan.raise flag
  | some (.flag _), _ :: _ => .error .badUsage
  | .none, _ => scan.unknown text

/-- The options of a word `-xyz`, given without the hyphen. -/
def letters (scan : Scan) : List Char → Except Stop Scan
  | [] => .ok scan
  | c :: rest =>
    match Opt.ofLetter? c with
    | some (.flag flag) => do letters (← scan.raise flag) rest
    | some (.setting setting) =>
      match rest with
      | [] => scan.await setting
      | '=' :: value => scan.assign setting value
      | value => scan.assign setting value
    | .none => .error .badUsage

/-- The word, without its hyphen, writes a number: digits with a point among them if wanted (not in
    front), and an exponent without a sign. -/
def isNumberWord (text : List Char) : Bool :=
  let isMark := fun c : Char => c == 'e' || c == 'E'
  let mantissa := text.takeWhile (!isMark ·)
  mantissa.all Number.isNumeral && mantissa.count '.' ≤ 1 && mantissa.head? != some '.' &&
    match text.dropWhile (!isMark ·) with
    | [] => true
    | _ :: exponent => !mantissa.isEmpty && !exponent.isEmpty && exponent.all Char.isDigit

/-- The setting that waits is an operand. -/
def awaitsOperand (scan : Scan) : Bool :=
  scan.awaiting == some .a || scan.awaiting == some .b

/-- A word `-xyz`, given without the hyphen. -/
def short (scan : Scan) (text : String) (rest : List Char) : Except Stop Scan :=
  if scan.awaitsOperand && isNumberWord rest then scan.word text
  else if scan.args.expression.isNone && rest.any (fun c => (Opt.ofLetter? c).isNone) then
    scan.word text
  else scan.letters rest

/-- The state after one more word. -/
def step (scan : Scan) (text : String) : Except Stop Scan :=
  if scan.wordsOnly then scan.word text
  else match text.toList with
    | ['-', '-'] =>
      if scan.awaiting.isSome then .error .badUsage else .ok { scan with wordsOnly := true }
    | '-' :: '-' :: rest => scan.long text rest
    | '-' :: c :: rest => scan.short text (c :: rest)
    | _ => scan.word text

/-- The arguments once the words end. -/
def finish (scan : Scan) : Except Stop Arguments :=
  if scan.awaiting.isSome || !scan.args.complete then .error .badUsage else .ok scan.args

end Scan

/-- The arguments of a command line. -/
def Arguments.ofWords (words : List String) : Except Stop Arguments := do
  let scan ← words.foldlM Scan.step Scan.start
  scan.finish

end Calculator.CommandLine
