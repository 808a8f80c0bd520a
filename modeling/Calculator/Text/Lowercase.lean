import Calculator.Text.Case

/-!
# Lowercase texts

A text is lowercased as the Unicode standard has it for a whole text, not letter by letter. Each
character gives its small letter, with two exceptions: İ gives an i and a dot above it, and a capital
sigma gives the final small one (ς) at the end of a word, the other (σ) elsewhere. A sigma ends a
word if a cased letter comes before it and none comes after it, both looked for past the
characters that do not count.
-/

namespace Calculator.Text

/-- The next character that counts is a cased letter. -/
def meetsCased (text : List Char) : Bool :=
  match text.dropWhile isCaseIgnorable with
  | [] => false
  | c :: _ => isCased c

/-- What one character becomes between the characters before it, the nearest first, and those
    after it. -/
def lowerBetween (before : List Char) (c : Char) (after : List Char) : List Char :=
  if c = 'Σ' then
    if meetsCased before && !meetsCased after then ['ς'] else ['σ']
  else if c = 'İ' then ['i', '\u0307']
  else [lower c]

/-- The rest of a text in lowercase, given what comes before it, the nearest first. -/
def lowerFrom (before : List Char) : List Char → List Char
  | [] => []
  | c :: after => lowerBetween before c after ++ lowerFrom (c :: before) after

/-- The characters of the lowercase text. -/
def lowered (text : List Char) : List Char :=
  lowerFrom [] text

/-- The text in lowercase. -/
def lowercase (text : String) : String :=
  String.ofList (lowered text.toList)

end Calculator.Text
