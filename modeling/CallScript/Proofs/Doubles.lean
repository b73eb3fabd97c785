import CallScript.Decimal.Binary64
import Mathlib

/-!
# Doubles as numbers

A double is kept as its bits, and its sign, mantissa and exponent are taken out of them. This module
shows that these fields are the ones by which the arithmetic of doubles reads the same bits, and that
truncation is the cut of the number toward zero with the ends of the 64-bit range for what lies
beyond it.
-/

namespace CallScript.Decimal

open Float.Model (Format UnpackedFloat)
open Float.Model.UnpackedFloat

/-! ## Fields -/

/-- Whether a sign is a minus. -/
def isMinus : Sign → Bool
  | .negative => true
  | .positive => false

/-- The lowest bits are the mantissa. -/
theorem toNat_unpackMantissa (bits : BitVec Format.binary64.numBits) :
    (unpackMantissa bits).toNat = bits.toNat % 0x10000000000000 := by
  simp [unpackMantissa, BitVec.extractLsb_toNat]

/-- The bits above the mantissa are the exponent. -/
theorem toNat_unpackExponent (bits : BitVec Format.binary64.numBits) :
    (unpackExponent bits).toNat = bits.toNat / 0x10000000000000 % 0x800 := by
  simp [unpackExponent, BitVec.extractLsb_toNat, Nat.shiftRight_eq_div_pow]

/-- The highest bit is the sign. -/
theorem isMinus_unpackSign (bits : BitVec Format.binary64.numBits) :
    isMinus (Sign.ofBitVec (unpackSign bits)) = decide (0x8000000000000000 ≤ bits.toNat) := by
  have hlt : bits.toNat < 0x10000000000000000 := bits.isLt
  have hbit : (unpackSign bits).toNat = bits.toNat / 0x8000000000000000 := by
    simp only [unpackSign, BitVec.toNat_cast, BitVec.extractLsb_toNat, Nat.shiftRight_eq_div_pow,
      Nat.reduceAdd, Nat.reduceSub, Nat.reducePow]
    omega
  simp only [Sign.ofBitVec, BitVec.toNat_eq, hbit]
  split
  · simp [isMinus] at *
    omega
  · simp [isMinus] at *
    omega

/-- A normal number has a hidden bit above its mantissa. -/
theorem toNat_append_unpackMantissa (bits : BitVec Format.binary64.numBits) :
    (1#1 ++ unpackMantissa bits).toNat = 0x10000000000000 + bits.toNat % 0x10000000000000 := by
  rw [BitVec.toNat_append, ← Nat.shiftLeft_add_eq_or_of_lt (BitVec.isLt _), toNat_unpackMantissa]
  rfl

/-- The fields of a double agree with a reading of it. -/
inductive HasFields (x : Float) : UnpackedFloat → Prop where
  | notANumber : HasFields x .notANumber
  | infinity {sign : Sign} (negative : (Binary64.ofFloat x).negative = isMinus sign) :
      HasFields x (.infinity sign)
  | zero {sign : Sign} (fields : Binary64.ofFloat x = ⟨isMinus sign, 0, -1074⟩) :
      HasFields x (.zero sign)
  | finite {sign : Sign} {mantissa : Nat} {exponent : Int} (pos : 0 < mantissa)
      (fields : Binary64.ofFloat x = ⟨isMinus sign, mantissa, exponent⟩) :
      HasFields x (.finite sign mantissa exponent pos)

/-- The fields of a double are those by which it is calculated with. -/
theorem hasFields_unpack (x : Float) : HasFields x x.toModel.unpack := by
  have hbits : x.toModel.toBits.toBitVec.toNat = x.toBits.toNat := rfl
  have hmantissa := toNat_unpackMantissa x.toModel.toBits.toBitVec
  have hhidden := toNat_append_unpackMantissa x.toModel.toBits.toBitVec
  have hexponent := toNat_unpackExponent x.toModel.toBits.toBitVec
  have hsign := isMinus_unpackSign x.toModel.toBits.toBitVec
  rw [hbits] at hmantissa hhidden hexponent hsign
  unfold Float.Model.unpack UnpackedFloat.unpack
  dsimp only
  split
  · split
    · refine .infinity ?_
      rw [hsign]
      rfl
    · exact .notANumber
  · split
    · next hsubnormal =>
      have hleast : x.toBits.toNat / 0x10000000000000 % 0x800 = 0 := by
        rw [← hexponent, hsubnormal]
        rfl
      split
      · next hzero =>
        have hnone : x.toBits.toNat % 0x10000000000000 = 0 := by
          rw [← hmantissa, hzero]
          rfl
        refine .zero ?_
        simp only [Binary64.ofFloat, hleast, hnone, hsign, if_true]
      · refine .finite _ ?_
        simp only [Binary64.ofFloat, hleast, hmantissa, hsign, hsubnormal, if_true]
        rfl
    · next hnormal =>
      have hleast : ¬ x.toBits.toNat / 0x10000000000000 % 0x800 = 0 := by
        intro hzero
        rw [← hexponent] at hzero
        exact hnormal (BitVec.eq_of_toNat_eq hzero)
      refine .finite _ ?_
      simp only [Binary64.ofFloat, if_neg hleast, hhidden, hsign, hexponent]
      rfl

/-- A finite double is equal to itself. -/
theorem beq_self_of_isFinite {x : Float} (h : x.isFinite = true) : (x == x) = true := by
  refine Float.beq_self_iff.mpr fun hnan => ?_
  rw [hnan] at h
  exact absurd h (by decide)

/-! ## Truncation -/

/-- A rational number cut to a whole number toward zero. -/
def towardZero (q : ℚ) : ℤ :=
  if 0 ≤ q then ⌊q⌋ else ⌈q⌉

/-- The nearest whole number in the range of 64 bits. -/
def saturate (n : ℤ) : ℤ :=
  max (-2 ^ 63) (min n (2 ^ 63 - 1))

/-- The whole number of 64 bits for a double: its number cut toward zero, the nearer end of the
range for what lies beyond it, and zero for what is not a number. -/
def wholeNumber (x : Float) : ℤ :=
  match x.toModel.unpack with
  | .notANumber => 0
  | .infinity .negative => -2 ^ 63
  | .infinity .positive => 2 ^ 63 - 1
  | .zero _ => 0
  | .finite sign mantissa exponent _ => saturate (towardZero (sign.apply mantissa * 2 ^ exponent))

/-- The whole part of the fields is the whole part of the number. -/
theorem Binary64.floor_magnitude (b : Binary64) :
    ⌊(b.mantissa : ℚ) * 2 ^ b.exponent⌋ = b.whole := by
  unfold whole
  split
  · next k hexponent =>
    have hproduct : (b.mantissa : ℚ) * 2 ^ b.exponent = ((b.mantissa * 2 ^ k : ℕ) : ℚ) := by
      rw [hexponent, Int.ofNat_eq_natCast, zpow_natCast]
      push_cast
      rfl
    rw [hproduct, Int.floor_natCast]
    rfl
  · next k hexponent =>
    have hquotient : (b.mantissa : ℚ) * 2 ^ b.exponent =
        ((b.mantissa : ℤ) : ℚ) / ((2 ^ (k + 1) : ℕ) : ℚ) := by
      rw [hexponent, zpow_negSucc]
      push_cast
      rfl
    rw [hquotient, Rat.floor_intCast_div_natCast]
    rfl

/-- Zero has no whole part. -/
theorem Binary64.whole_of_mantissa_eq_zero {b : Binary64} (h : b.mantissa = 0) : b.whole = 0 := by
  unfold whole
  split
  · rw [h, Nat.zero_mul]
  · rw [h, Nat.zero_div]

/-- A number is cut toward zero at its whole part, whatever its sign is. -/
theorem towardZero_apply (sign : Sign) (b : Binary64) :
    towardZero (sign.apply b.mantissa * 2 ^ b.exponent) = sign.apply b.whole := by
  have hfloor := b.floor_magnitude
  have hnonneg : (0 : ℚ) ≤ (b.mantissa : ℚ) * 2 ^ b.exponent :=
    mul_nonneg (Nat.cast_nonneg _) (zpow_nonneg zero_le_two _)
  cases sign with
  | positive =>
    simp only [Sign.apply, Int.cast_natCast, towardZero]
    rw [if_pos hnonneg, hfloor]
  | negative =>
    simp only [Sign.apply, Int.cast_neg, Int.cast_natCast, neg_mul, towardZero]
    split
    · next hsign =>
      have hzero : (b.mantissa : ℚ) * 2 ^ b.exponent = 0 := by linarith
      rw [hzero] at hfloor
      rw [hzero, ← hfloor]
      simp
    · rw [Int.ceil_neg, hfloor]

/-- A magnitude with a sign as a 64-bit integer, the nearer end of the range standing for what lies
beyond it. -/
theorem toInt_saturated (sign : Sign) (whole : Nat) :
    (if isMinus sign then
      if 0x8000000000000000 ≤ whole then Int64.minValue else Int64.ofInt (-(whole : Int))
    else if 0x8000000000000000 ≤ whole then Int64.maxValue else Int64.ofInt whole).toInt =
      saturate (sign.apply whole) := by
  cases sign with
  | negative =>
    simp only [isMinus, if_true, Sign.apply, saturate]
    split
    · rw [Int64.toInt_minValue]
      omega
    · rw [Int64.toInt_ofInt_of_le (by omega) (by omega)]
      omega
  | positive =>
    simp only [isMinus, Bool.false_eq_true, if_false, Sign.apply, saturate]
    split
    · rw [Int64.toInt_maxValue]
      omega
    · rw [Int64.toInt_ofInt_of_le (by omega) (by omega)]
      omega

/-- Truncation gives the whole number of a double. -/
theorem toInt_truncate (x : Float) : (truncate x).toInt = wholeNumber x := by
  have hfields := hasFields_unpack x
  have hnan : x.isNaN = x.toModel.unpack.isNaN := rfl
  have hinf : x.isInf = x.toModel.unpack.isInf := rfl
  rw [truncate, hnan, hinf, wholeNumber]
  generalize x.toModel.unpack = reading at *
  cases hfields with
  | notANumber => rfl
  | @infinity sign hnegative =>
    simp only [hnegative]
    cases sign with
    | negative => rfl
    | positive => rfl
  | @zero sign hzero =>
    have hwhole : Binary64.whole ⟨isMinus sign, 0, -1074⟩ = 0 :=
      Binary64.whole_of_mantissa_eq_zero rfl
    have hcut := toInt_saturated sign 0
    simp only [UnpackedFloat.isNaN, UnpackedFloat.isInf, hzero, hwhole, Bool.false_or,
      decide_eq_true_eq] at hcut ⊢
    rw [if_neg Bool.false_ne_true, hcut]
    cases sign with
    | negative => rfl
    | positive => rfl
  | @finite sign mantissa exponent hpos hfinite =>
    have hcut := toInt_saturated sign (Binary64.whole ⟨isMinus sign, mantissa, exponent⟩)
    rw [← towardZero_apply sign ⟨isMinus sign, mantissa, exponent⟩] at hcut
    simp only [UnpackedFloat.isNaN, UnpackedFloat.isInf, hfinite, Bool.false_or,
      decide_eq_true_eq] at hcut ⊢
    rw [if_neg Bool.false_ne_true, hcut]

end CallScript.Decimal
