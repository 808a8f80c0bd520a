import Calculator.Number.Magnitude

/-!
# Numbers as a sign and a magnitude

The calculator computes with `Float`, the double precision numbers. Reading and writing them is
done on their parts instead, where everything is exact: this file fixes the two directions.

* `shape x` takes a number apart: no number, an infinity, or a sign and a finite magnitude;
* `ofMagnitude negative n` puts one together. The sign is kept apart from the size, so that
  there are two zeros, and they are written differently.
-/

namespace Calculator.Number

-- powers are those of core, whatever other instances are in sight
attribute [local instance (high)] instPowNat

/-- What a number is made of. -/
inductive Shape where
  | notANumber
  | infinity (negative : Bool)
  | finite (negative : Bool) (magnitude : Nat)
  deriving DecidableEq, Repr

/-- The sign bit, as a weight. -/
def signWeight : Nat := 2 ^ (63 : Nat)

/-- The parts of a number. -/
def shape (x : Float) : Shape :=
  let bits := x.toBits.toNat
  let negative := decide (signWeight ≤ bits)
  let magnitude := bits % signWeight
  if infinite < magnitude then .notANumber
  else if magnitude = infinite then .infinity negative
  else .finite negative magnitude

/-- The number of a sign and a magnitude, `infinite` included. -/
def ofMagnitude (negative : Bool) (n : Nat) : Float :=
  Float.ofBits (UInt64.ofNat (if negative then signWeight + n else n))

/-- The zero without a sign. -/
def zero : Float :=
  ofMagnitude false 0

/-- A finite shape holds a finite magnitude. -/
theorem magnitude_lt_infinite {x : Float} {negative : Bool} {n : Nat}
    (h : shape x = .finite negative n) : n < infinite := by
  unfold shape at h
  dsimp only at h
  split at h
  · cases h
  · split at h
    · cases h
    · cases h
      omega

end Calculator.Number
