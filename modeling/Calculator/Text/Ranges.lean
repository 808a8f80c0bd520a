/-!
# Sets of characters given by ranges

The properties of characters that the calculator asks about are those of the Unicode standard, in
its version 17. Outside ASCII they are tables: a list of ranges of code points, each given by its
first and its last one.
-/

namespace Calculator.Text

/-- The character lies in one of the ranges. -/
def inRanges (ranges : List (Nat × Nat)) (c : Char) : Bool :=
  ranges.any fun range => range.1 ≤ c.toNat && c.toNat ≤ range.2

/-- The character is one of the 128 of ASCII. -/
def isAscii (c : Char) : Bool :=
  c.toNat < 128

end Calculator.Text
