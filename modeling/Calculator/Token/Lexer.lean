import Calculator.Error
import Calculator.Number.Decimal
import Calculator.Number.Literal
import Calculator.Text.Blank
import Calculator.Text.Letter
import Calculator.Text.Lowercase
import Calculator.Token

/-!
# From characters to tokens

The lexer takes one character at a time. Its state is the list of the tokens that are complete
and the one that is open: a literal or a name that the next character may continue, or a prefix
minus, whose meaning only the next character decides. So what is left of the text is read without
looking back at the characters before it, and the reading of a text that is put together from two
is the reading of the second from the state the first leaves (`run_append`).

The rules:

* blanks separate tokens and are dropped;
* a run of digits and dots is one literal (`Number.read?`), a run of letters one name, in small
  letters;
* a minus is a prefix where an operand is due: at the start, after an operator, after `(`. If a
  digit or dot follows at once, it is the sign of that literal; otherwise it stands for `0 -`;
* any character that has no place in an expression is an error, and so is a run of digits and
  dots that is no literal.
-/

namespace Calculator

/-! ## 1. The state -/

/-- What has been begun and may go on with the next character, the last character first. -/
inductive OpenToken where
  | nothing
  | minus
  | literal (negative : Bool) (run : List Char)
  | word (letters : List Char)
  deriving DecidableEq, Repr

/-- The state of the lexer: the complete tokens, the last one first, and the open one. -/
structure Lexer where
  tokens : List Token
  opened : OpenToken
  deriving DecidableEq

namespace Lexer

/-- Before the first character. -/
def start : Lexer :=
  ⟨[], .nothing⟩

/-! ## 2. The steps -/

/-- An operand is due after these tokens, the last one first: a minus is a prefix here. -/
def operandDue : List Token → Bool
  | [] | .operator _ :: _ | .openParen :: _ => true
  | _ => false

/-- The open token with one more character, if that continues it. -/
def continued? : OpenToken → Char → Option OpenToken
  | .nothing, _ => none
  | .minus, c => if Number.isNumeral c then some (.literal true [c]) else none
  | .literal negative run, c =>
    if Number.isNumeral c then some (.literal negative (c :: run)) else none
  | .word letters, c => if Text.isLetter c then some (.word (c :: letters)) else none

/-- The complete tokens once the open one ends. -/
def close : Lexer → Except EvalError (List Token)
  | ⟨tokens, .nothing⟩ => .ok tokens
  | ⟨tokens, .minus⟩ => .ok (.operator .sub :: .number Number.zero :: tokens)
  | ⟨tokens, .literal negative run⟩ =>
    match Number.read? negative run.reverse with
    | some value => .ok (.number value :: tokens)
    | none => .error (.invalidNumber (String.ofList (Number.signed negative run.reverse)))
  | ⟨tokens, .word letters⟩ =>
    .ok (.name (Text.lowercase (String.ofList letters.reverse)) :: tokens)

/-- A character that continues nothing. -/
def begin (tokens : List Token) (c : Char) : Except EvalError Lexer :=
  if Text.isBlank c then .ok ⟨tokens, .nothing⟩
  else if Number.isNumeral c then .ok ⟨tokens, .literal false [c]⟩
  else match Operator.ofSymbol? c with
    | some o =>
      if o = .sub ∧ operandDue tokens then .ok ⟨tokens, .minus⟩
      else .ok ⟨.operator o :: tokens, .nothing⟩
    | none =>
      if c = '(' then .ok ⟨.openParen :: tokens, .nothing⟩
      else if c = ')' then .ok ⟨.closeParen :: tokens, .nothing⟩
      else if Text.isLetter c then .ok ⟨tokens, .word [c]⟩
      else .error (.unsupportedCharacter c)

/-- The state after one more character. -/
def step (lexer : Lexer) (c : Char) : Except EvalError Lexer :=
  match continued? lexer.opened c with
  | some opened => .ok ⟨lexer.tokens, opened⟩
  | none => do begin (← lexer.close) c

/-- The state after more characters. -/
def run (lexer : Lexer) (text : List Char) : Except EvalError Lexer :=
  text.foldlM step lexer

/-- A text in two parts is read part by part. -/
theorem run_append (lexer : Lexer) (first second : List Char) :
    lexer.run (first ++ second) = (lexer.run first >>= fun l => l.run second) := by
  simp [run, List.foldlM_append]

end Lexer

/-- The tokens of a text, or the leftmost fault in it. -/
def tokenize (text : String) : Except EvalError (List Token) := do
  let lexer ← Lexer.start.run text.toList
  return (← lexer.close).reverse

end Calculator
