/-!
# The log

While a command line runs, the program notes what it is about to do and what has failed. Each note
has a level, and only those are written that are important enough: how important that is can be
said by the environment, and is otherwise decided by how often the command line asks for a log.
-/

namespace Calculator.CommandLine

/-- How much detail is written, or belongs to a note. -/
inductive Level where
  | info
  | debug
  | trace
  deriving DecidableEq, Repr

namespace Level

/-- The detail of a level, the more the higher. -/
def detail : Level → Nat
  | info => 0
  | debug => 1
  | trace => 2

/-- The level that is written at this verbosity. -/
def ofVerbosity : Nat → Level
  | 0 => info
  | 1 => debug
  | _ => trace

end Level

/-- What is noted: that an expression is evaluated, or an operation computed with its operands; that
    there is no result, for a reason of this code; that the window opens with so many decimals. -/
inductive Note where
  | evaluation (expression : String)
  | operation (name : String) (a : Float) (b : Option Float)
  | failure (code : String)
  | opening (digits : Nat)
  deriving DecidableEq

namespace Note

/-- The level of a note. -/
def level : Note → Level
  | opening _ => .info
  | _ => .debug

/-- The words of a note, in front of what it tells. -/
def message : Note → String
  | evaluation _ => "évaluation"
  | operation .. => "opération directe"
  | failure _ => "échec"
  | opening _ => "ouverture de la fenêtre"

end Note

/-- Which notes the environment wants written, if it says anything about it. -/
abbrev Environment :=
  Option (Note → Bool)

/-- The note is written, in this environment and at this verbosity. The environment goes first. -/
def Environment.writes (environment : Environment) (verbosity : Nat) (note : Note) : Bool :=
  match environment with
  | some wants => wants note
  | none => note.level.detail ≤ (Level.ofVerbosity verbosity).detail

end Calculator.CommandLine
