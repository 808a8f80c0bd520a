import Calculator.Operator
import Calculator.Text.Blank
import Calculator.Text.Letter

/-!
# The entry line

What the keys of the keypad do to the text of the entry. Keys write with spaces, for the eye: an
operator stands between two of them, and a function or an open parenthesis is set apart from an
operand before it. Deleting takes back what one key has written: a function name goes together with
its parenthesis, anything else character by character, and no space is left at the end.

The entry may hold any text, since it can be typed into. Only the space itself is added and
taken away here; the other blanks count as blanks only where an operand is looked for.
-/

namespace Calculator

/-- The keys that write into the entry. -/
inductive Key where
  | digit (d : Fin 10)
  | point
  | operator (o : Operator)
  | openParen
  | closeParen
  | function (f : Func)
  deriving DecidableEq, Repr

namespace Entry

/-- A function with the parenthesis that opens its argument. -/
def callText (f : Func) : List Char :=
  f.name.toList ++ ['(']

/-- The text of a key, without spaces. -/
def keyText : Key → List Char
  | .digit d => [Nat.digitChar d]
  | .point => ['.']
  | .operator o => [o.symbol]
  | .openParen => ['(']
  | .closeParen => [')']
  | .function f => callText f

/-- The text without the spaces it ends in. -/
def stripSpaces (text : List Char) : List Char :=
  (text.reverse.dropWhile (· == ' ')).reverse

/-- The last character that is no blank ends an operand (or a name). -/
def endsOperand (text : List Char) : Bool :=
  match text.reverse.find? (fun c => !Text.isBlank c) with
  | some c => c.isDigit || Text.isLetter c || c == ')'
  | none => false

/-- The text with a space after it, if an operand ends there. -/
def setApart (text : List Char) : List Char :=
  if endsOperand text then text ++ [' '] else text

/-- The text after a key is pressed. -/
def insert (text : List Char) : Key → List Char
  | .closeParen => stripSpaces text ++ [')']
  | .openParen => setApart text ++ ['(']
  | .function f => setApart text ++ callText f
  | .operator o =>
    let before := stripSpaces text
    (if before.isEmpty then [] else before ++ [' ']) ++ [o.symbol, ' ']
  | key => text ++ keyText key

/-- How many characters go together at the end of a text. -/
def lastUnit (text : List Char) : Nat :=
  match Func.all.find? fun f => (callText f).isSuffixOf text with
  | some f => (callText f).length
  | none => 1

/-- The text after its last unit is deleted, and the spaces on both sides of it. -/
def deleteLast (text : List Char) : List Char :=
  let shown := stripSpaces text
  stripSpaces (shown.take (shown.length - lastUnit shown))

/-- Nothing can be deleted from nothing. -/
theorem deleteLast_nil : deleteLast [] = [] := rfl

end Entry

end Calculator
