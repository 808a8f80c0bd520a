import Calculator.Number.Signed
import Mathlib

/-!
# Numbers and their words

A number is kept as a word of 64 bits. Sign and magnitude are parts of the word, so that a number
that is put together of a sign and a magnitude has these parts (`shape_ofMagnitude`), and one that
is taken apart is put together again (`ofMagnitude_of_shape`). The only words that are changed on
the way into a number are those beyond infinity, which all become the one that is no number.
-/

namespace Calculator.Number

-- powers are those of core, whatever other instances are in sight
attribute [local instance (high)] instPowNat

open Float.Model

/-! ## 1. The fields of a word -/

theorem toNat_unpackExponent (b : BitVec Format.binary64.numBits) :
    (UnpackedFloat.unpackExponent b).toNat = b.toNat / 2 ^ (52 : Nat) % 2 ^ (11 : Nat) := by
  rw [UnpackedFloat.unpackExponent_def]
  simp [Format.binary64, Nat.shiftRight_eq_div_pow]

theorem toNat_unpackMantissa (b : BitVec Format.binary64.numBits) :
    (UnpackedFloat.unpackMantissa b).toNat = b.toNat % 2 ^ (52 : Nat) := by
  rw [UnpackedFloat.unpackMantissa_def]
  simp [Format.binary64, Nat.shiftRight_eq_div_pow]

/-- The exponent is at its largest from infinity on. -/
theorem unpackExponent_eq_iff (b : BitVec Format.binary64.numBits) :
    UnpackedFloat.unpackExponent b = -BitVec.ofNat Format.binary64.exponentBits 1 ↔
      infinite ≤ b.toNat % signWeight := by
  have hones : (-BitVec.ofNat Format.binary64.exponentBits 1).toNat = 2047 := rfl
  rw [← BitVec.toNat_inj, toNat_unpackExponent, hones]
  unfold infinite signWeight fractionSpan
  omega

/-- No number is finite whose magnitude is not, and the other way round. -/
theorem isFinite_iff (x : Float) :
    x.isFinite = true ↔ x.toBits.toNat % signWeight < infinite := by
  have hexponent := unpackExponent_eq_iff x.toBits.toBitVec
  have hword : x.toBits.toBitVec.toNat = x.toBits.toNat := rfl
  rw [hword] at hexponent
  have hfinite : x.isFinite = (UnpackedFloat.unpack Format.binary64 x.toBits.toBitVec).isFinite :=
    rfl
  rw [← Nat.not_le, ← hexponent, hfinite]
  unfold UnpackedFloat.unpack
  dsimp only
  split_ifs with hones
  · exact iff_of_false Bool.false_ne_true (not_not_intro hones)
  · exact iff_of_false Bool.false_ne_true (not_not_intro hones)
  · exact iff_of_true rfl hones
  · exact iff_of_true rfl hones
  · exact iff_of_true rfl hones

/-! ## 2. Through a word -/

/-- Words up to infinity are kept as they are. -/
theorem toBits_ofBits {w : UInt64} (h : w.toNat % signWeight ≤ infinite) :
    (Float.ofBits w).toBits = w := by
  have hvalid : Format.binary64.Valid w.toBitVec := by
    refine ⟨fun hexponent hmantissa => absurd ?_ hmantissa⟩
    have hinfinite : infinite ≤ w.toNat % signWeight := (unpackExponent_eq_iff _).mp hexponent
    rw [← BitVec.toNat_inj, toNat_unpackMantissa]
    show w.toNat % 2 ^ (52 : Nat) = 0
    unfold infinite signWeight fractionSpan at *
    omega
  exact congrArg UInt64.ofBitVec (UnpackedFloat.pack_unpack_of_valid hvalid)

theorem ofBits_toBits (x : Float) : Float.ofBits x.toBits = x := by
  obtain ⟨⟨bits, hvalid⟩⟩ := x
  have hbits := UnpackedFloat.pack_unpack_of_valid hvalid
  show Float.ofModel (pack (UnpackedFloat.unpack Format.binary64 bits.toBitVec)) = _
  simp only [pack, hbits]

/-! ## 3. Sign and magnitude -/

/-- The sign is set. -/
def isNegative (x : Float) : Bool :=
  decide (signWeight ≤ x.toBits.toNat)

theorem infinite_lt_signWeight : infinite < signWeight := by
  decide

/-- The magnitude of a word is what it has below its sign. -/
theorem word_mod (negative : Bool) {n : Nat} (hn : n ≤ infinite) :
    (if negative then signWeight + n else n) % signWeight = n := by
  have hlarge := infinite_lt_signWeight
  split
  · rw [Nat.add_mod_left, Nat.mod_eq_of_lt (by omega)]
  · rw [Nat.mod_eq_of_lt (by omega)]

theorem toNat_toBits_ofMagnitude (negative : Bool) {n : Nat} (hn : n ≤ infinite) :
    (ofMagnitude negative n).toBits.toNat = if negative then signWeight + n else n := by
  have hlarge := infinite_lt_signWeight
  have hword : (UInt64.ofNat (if negative then signWeight + n else n)).toNat =
      if negative then signWeight + n else n := by
    refine UInt64.toNat_ofNat_of_lt' ?_
    show _ < 2 ^ (64 : Nat)
    unfold signWeight at *
    split <;> omega
  rw [ofMagnitude, toBits_ofBits (by rwa [hword, word_mod negative hn]), hword]

theorem isNegative_ofMagnitude (negative : Bool) {n : Nat} (hn : n ≤ infinite) :
    isNegative (ofMagnitude negative n) = negative := by
  have hlarge := infinite_lt_signWeight
  rw [isNegative, toNat_toBits_ofMagnitude negative hn]
  cases negative with
  | false => exact decide_eq_false (by simp; omega)
  | true => exact decide_eq_true (by simp)

/-- **A number has the sign and the magnitude it is put together of.** -/
theorem shape_ofMagnitude (negative : Bool) {n : Nat} (hn : n < infinite) :
    shape (ofMagnitude negative n) = .finite negative n := by
  have hsign : decide (signWeight ≤ (ofMagnitude negative n).toBits.toNat) = negative :=
    isNegative_ofMagnitude negative (Nat.le_of_lt hn)
  have hmagnitude : (ofMagnitude negative n).toBits.toNat % signWeight = n := by
    rw [toNat_toBits_ofMagnitude negative (Nat.le_of_lt hn), word_mod negative (Nat.le_of_lt hn)]
  unfold shape
  dsimp only
  rw [hsign, hmagnitude, if_neg (by omega), if_neg (by omega)]

theorem parts_of_shape {x : Float} {negative : Bool} {n : Nat}
    (h : shape x = .finite negative n) :
    isNegative x = negative ∧ x.toBits.toNat % signWeight = n := by
  unfold shape at h
  dsimp only at h
  split at h
  · cases h
  · split at h
    · cases h
    · cases h
      exact ⟨rfl, rfl⟩

/-- **A number is put together again of its sign and its magnitude.** -/
theorem ofMagnitude_of_shape {x : Float} {negative : Bool} {n : Nat}
    (h : shape x = .finite negative n) : ofMagnitude negative n = x := by
  obtain ⟨hsign, hmagnitude⟩ := parts_of_shape h
  have hword : (if negative then signWeight + n else n) = x.toBits.toNat := by
    have hlt := x.toBits.toNat_lt
    rw [← hsign, ← hmagnitude, isNegative]
    simp only [decide_eq_true_eq]
    unfold signWeight
    split <;> omega
  rw [ofMagnitude, hword, UInt64.ofNat_toNat, ofBits_toBits]

/-- The finite numbers are those with a sign and a magnitude. -/
theorem exists_shape_iff (x : Float) :
    (∃ negative n, shape x = .finite negative n) ↔ x.isFinite = true := by
  rw [isFinite_iff]
  constructor
  · rintro ⟨negative, n, h⟩
    rw [(parts_of_shape h).2]
    exact magnitude_lt_infinite h
  · intro h
    unfold shape
    dsimp only
    rw [if_neg (by omega), if_neg (by omega)]
    exact ⟨_, _, rfl⟩

end Calculator.Number
