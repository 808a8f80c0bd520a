import Calculator.Arithmetic
import Mathlib

/-!
# Sums and differences with zero

A prefix minus stands for a difference from zero. Behind a plus it makes no difference whether the
zero goes to the sum on its left or to the minus on its right: `x + 0 - y` and `x + (0 - y)` are the
same number, the sign of a zero included (`add_zero_sub`).

Numbers are added and subtracted in two steps: on their parts, and then put back into a word. On
the parts a difference is the sum with the negative (`sub_eq_add`), and the positive zero changes
nothing but the sign of a zero. A number that came out of a word is not changed on the way through
one, and neither is its negative, because the sign has its own bit (`unpack_pack_neg`).
-/

namespace Calculator.Number

open Float.Model
open Float.Model.UnpackedFloat (Sign packComponents unpackMantissa unpackExponent unpackSign)

/-! ## 1. On the parts -/

theorem sub_eq_add (format : Format) (x y : UnpackedFloat) :
    x.sub format y = x.add format y.neg := by
  have hsign : ∀ (s : Sign) (n : Int), (-s).apply n = -s.apply n := fun s n => by
    cases s
    · exact (Int.neg_neg n).symm
    · rfl
  cases x <;> cases y <;>
    simp [UnpackedFloat.sub, UnpackedFloat.add, UnpackedFloat.neg, hsign, Int.sub_eq_add_neg]

/-- The positive zero, as it is added. -/
def positiveZero : UnpackedFloat :=
  .zero .positive

/-- A sum with it is the other number, or the zero itself. -/
theorem add_positiveZero (format : Format) (x : UnpackedFloat) :
    x.add format positiveZero = x ∨ x.add format positiveZero = positiveZero := by
  cases x with
  | zero s =>
    cases s with
    | negative => exact .inr rfl
    | positive => exact .inl rfl
  | infinity s => exact .inl rfl
  | notANumber => exact .inl rfl
  | finite s m e hm => exact .inl rfl

/-- A difference from it is the negative of the other number, or the zero itself. -/
theorem positiveZero_sub (format : Format) (y : UnpackedFloat) :
    positiveZero.sub format y = y.neg ∨ positiveZero.sub format y = positiveZero := by
  cases y with
  | zero s =>
    cases s with
    | negative => exact .inl rfl
    | positive => exact .inr rfl
  | infinity s => exact .inl rfl
  | notANumber => exact .inl rfl
  | finite s m e hm => exact .inl rfl

theorem add_positiveZero_sub (format : Format) (x y : UnpackedFloat) :
    (x.add format positiveZero).sub format y = x.add format (positiveZero.sub format y) := by
  rw [sub_eq_add]
  cases x with
  | zero s => cases s <;> cases y with
    | zero s' => cases s' <;> rfl
    | infinity s' => rfl
    | notANumber => rfl
    | finite s' m e hm => rfl
  | infinity s => cases y with
    | zero s' => cases s' <;> rfl
    | infinity s' => rfl
    | notANumber => rfl
    | finite s' m e hm => rfl
  | notANumber => rfl
  | finite s m e hm => cases y with
    | zero s' => cases s' <;> rfl
    | infinity s' => rfl
    | notANumber => rfl
    | finite s' m' e' hm' => rfl

/-! ## 2. Through a word -/

theorem unpack_packComponents_neg (format : Format) (s : Sign) (e : BitVec format.exponentBits)
    (m : BitVec format.mantissaBitsWithoutImplicit) :
    UnpackedFloat.unpack format (packComponents format (-s) e m) =
      (UnpackedFloat.unpack format (packComponents format s e m)).neg := by
  unfold UnpackedFloat.unpack
  simp only [UnpackedFloat.unpackMantissa_packComponents,
    UnpackedFloat.unpackExponent_packComponents, UnpackedFloat.unpackSign_packComponents,
    Sign.ofBitVec_toBitVec]
  split_ifs <;> rfl

/-- The sign has its own bit. -/
theorem pack_finite (format : Format) (m : Nat) (e : Int) (hm : 0 < m) :
    ∃ exponent mantissa, ∀ s, UnpackedFloat.pack format (.finite s m e hm) =
      packComponents format s exponent mantissa := by
  unfold UnpackedFloat.pack
  dsimp only
  split_ifs
  · exact ⟨_, _, fun s => rfl⟩
  · exact ⟨_, _, fun s => rfl⟩
  · exact ⟨_, _, fun s => rfl⟩

/-- A negative is lost on the way through a word only if the number itself is. -/
theorem unpack_pack_neg (format : Format) (x : UnpackedFloat) :
    UnpackedFloat.unpack format (x.neg.pack format) =
      (UnpackedFloat.unpack format (x.pack format)).neg := by
  cases x with
  | notANumber =>
    show UnpackedFloat.unpack format (UnpackedFloat.packedNaN format) =
      (UnpackedFloat.unpack format (UnpackedFloat.packedNaN format)).neg
    rw [UnpackedFloat.unpack_packedNaN]
    rfl
  | infinity s => exact unpack_packComponents_neg format s _ _
  | zero s => exact unpack_packComponents_neg format s _ _
  | finite s m e hm =>
    obtain ⟨exponent, mantissa, hpack⟩ := pack_finite format m e hm
    show UnpackedFloat.unpack format (UnpackedFloat.pack format (.finite (-s) m e hm)) = _
    rw [hpack, hpack]
    exact unpack_packComponents_neg format s _ _

/-- What came out of a word comes back. -/
theorem unpack_pack_unpack (x : Float.Model) : (pack x.unpack).unpack = x.unpack :=
  congrArg (UnpackedFloat.unpack Format.binary64) (UnpackedFloat.pack_unpack_of_valid x.valid)

/-- So does its negative. -/
theorem unpack_pack_neg_unpack (x : Float.Model) :
    (pack x.unpack.neg).unpack = x.unpack.neg :=
  (unpack_pack_neg Format.binary64 x.unpack).trans
    (congrArg UnpackedFloat.neg (unpack_pack_unpack x))

theorem unpack_pack_positiveZero : (pack positiveZero).unpack = positiveZero :=
  UnpackedFloat.unpack_packedZero

theorem unpack_pack_add_positiveZero (x : Float.Model) :
    (pack (x.unpack.add Format.binary64 positiveZero)).unpack =
      x.unpack.add Format.binary64 positiveZero := by
  rcases add_positiveZero Format.binary64 x.unpack with h | h <;> rw [h]
  · exact unpack_pack_unpack x
  · exact unpack_pack_positiveZero

theorem unpack_pack_positiveZero_sub (y : Float.Model) :
    (pack (positiveZero.sub Format.binary64 y.unpack)).unpack =
      positiveZero.sub Format.binary64 y.unpack := by
  rcases positiveZero_sub Format.binary64 y.unpack with h | h <;> rw [h]
  · exact unpack_pack_neg_unpack y
  · exact unpack_pack_positiveZero

/-! ## 3. On numbers -/

theorem unpack_zero : zero.toModel.unpack = positiveZero := rfl

/-- **Behind a plus, a zero may go to the left or to the right.** -/
theorem add_zero_sub (x y : Float) : x + zero - y = x + (zero - y) := by
  obtain ⟨x⟩ := x
  obtain ⟨y⟩ := y
  show Float.ofModel (pack (UnpackedFloat.sub Format.binary64
      (pack (x.unpack.add Format.binary64 zero.toModel.unpack)).unpack y.unpack)) =
    Float.ofModel (pack (x.unpack.add Format.binary64
      (pack (zero.toModel.unpack.sub Format.binary64 y.unpack)).unpack))
  rw [unpack_zero, unpack_pack_add_positiveZero, unpack_pack_positiveZero_sub,
    add_positiveZero_sub]

end Calculator.Number
