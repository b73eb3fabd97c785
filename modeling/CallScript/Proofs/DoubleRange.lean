import CallScript.Proofs.Doubles

/-!
# The range of doubles

The doubles end at `(2 ^ 53 - 1) * 2 ^ 971`. A number behind this end is still rounded to it if it
lies below the middle of the gap up to the next power of two, and to infinity if it does not. This
module follows the rounding through its two shifts, through quotients and through the reading of
decimals, and shows that all of them leave the finite doubles at exactly this middle.
-/

namespace CallScript.Decimal

open Float.Model (Format UnpackedFloat)
open Float.Model.UnpackedFloat

/-! ## Rounding -/

/-- Shifting down divides by a power of two. -/
theorem mantissa_shiftRight (mantissa : ExtendedMantissa) (places : Nat) :
    (mantissa >>> places).mantissa = mantissa.mantissa / 2 ^ places := by
  change (places.repeat ExtendedMantissa.shiftRightOne mantissa).mantissa = _
  induction places with
  | zero => exact (Nat.div_one _).symm
  | succ places ih =>
    rw [Nat.repeat, ExtendedMantissa.shiftRightOne, ih, Nat.div_div_eq_div_mul, Nat.pow_succ]

/-- A mantissa is kept beside what is known about its rest. -/
theorem mantissa_ofMantissaAndAccuracy (mantissa : Nat) (accuracy : Accuracy) :
    (ExtendedMantissa.ofMantissaAndAccuracy mantissa accuracy).mantissa = mantissa := by
  unfold ExtendedMantissa.ofMantissaAndAccuracy
  split
  all_goals rfl

/-- Rounding adds at most one to a mantissa. -/
theorem roundedMantissa_le (mantissa : ExtendedMantissa) :
    mantissa.roundedMantissa ≤ mantissa.mantissa + 1 := by
  obtain ⟨m, roundBit, stickyBit⟩ := mantissa
  cases roundBit <;> cases stickyBit <;>
    simp [ExtendedMantissa.roundedMantissa, ExtendedMantissa.accuracy,
      Accuracy.roundToNearestEven]
  omega

/-- Rounding does not make a mantissa smaller. -/
theorem le_roundedMantissa (mantissa : ExtendedMantissa) :
    mantissa.mantissa ≤ mantissa.roundedMantissa := by
  obtain ⟨m, roundBit, stickyBit⟩ := mantissa
  cases roundBit <;> cases stickyBit <;>
    simp [ExtendedMantissa.roundedMantissa, ExtendedMantissa.accuracy,
      Accuracy.roundToNearestEven]

/-- A mantissa that is shifted down is rounded by its last half: without it the mantissa stays, and
with it an odd mantissa goes up to the even one. -/
theorem roundedMantissa_shiftRightOne (mantissa : ExtendedMantissa) :
    mantissa.shiftRightOne.roundedMantissa ≤ (mantissa.mantissa + 1) / 2 ∧
      (mantissa.mantissa / 2 % 2 = 1 →
        mantissa.shiftRightOne.roundedMantissa = (mantissa.mantissa + 1) / 2) := by
  obtain ⟨m, roundBit, stickyBit⟩ := mantissa
  have hparity : m % 2 = 0 ∨ m % 2 = 1 := Nat.mod_two_eq_zero_or_one m
  rcases hparity with heven | hodd
  · cases roundBit <;> cases stickyBit <;>
      simp [ExtendedMantissa.shiftRightOne, ExtendedMantissa.roundedMantissa,
        ExtendedMantissa.accuracy, Accuracy.roundToNearestEven, heven] <;> omega
  · cases roundBit <;> cases stickyBit <;>
      simp [ExtendedMantissa.shiftRightOne, ExtendedMantissa.roundedMantissa,
        ExtendedMantissa.accuracy, Accuracy.roundToNearestEven, hodd] <;> omega

/-! ## The end of the range -/

/-- Bits whose exponent is not the greatest one are those of a finite number. -/
theorem isFinite_unpack {bits : BitVec Format.binary64.numBits} (h : unpackExponent bits ≠ -1#_) :
    (UnpackedFloat.unpack .binary64 bits).isFinite = true := by
  unfold UnpackedFloat.unpack
  dsimp only
  rw [if_neg h]
  split
  · split
    · rfl
    · rfl
  · rfl

/-- A number whose exponent the format has is finite. -/
theorem isFinite_pack (sign : Sign) {mantissa : Nat} {exponent : Int} (hpos : 0 < mantissa)
    (h : exponent ≤ 971) :
    (Float.Model.pack (.finite sign mantissa exponent hpos)).isFinite = true := by
  have hbias : (Format.binary64.exponentBias : Int) = 1023 := rfl
  refine isFinite_unpack ?_
  change unpackExponent (UnpackedFloat.pack .binary64 (.finite sign mantissa exponent hpos)) ≠ -1#_
  rw [UnpackedFloat.pack]
  split
  · next hoverflow =>
    dsimp only at hoverflow
    omega
  · next hfits =>
    dsimp only at hfits
    split
    · rw [unpackExponent_packComponents]
      intro heq
      have hnat := congrArg BitVec.toNat heq
      simp only [BitVec.toNat_ofNat, BitVec.neg_one_eq_allOnes, BitVec.toNat_allOnes] at hnat
      omega
    · rw [unpackExponent_packComponents]
      decide

/-- Zero is finite. -/
theorem isFinite_pack_zero (sign : Sign) : (Float.Model.pack (.zero sign)).isFinite = true := by
  cases sign with
  | positive => rfl
  | negative => rfl

/-- A number is finite exactly if the format has its exponent. -/
theorem isFinite_pack_iff (sign : Sign) {mantissa : Nat} (hpos : 0 < mantissa) (exponent : Int) :
    (Float.Model.pack (.finite sign mantissa exponent hpos)).isFinite = true ↔
      exponent ≤ 971 := by
  refine ⟨fun h => ?_, isFinite_pack sign hpos⟩
  by_contra hlarge
  have hcapacity : 2 ^ Format.binary64.exponentBits = 2048 := rfl
  have hbias : (Format.binary64.exponentBias : Int) = 1023 := rfl
  have hwidth : (Format.binary64.mantissaBitsWithoutImplicit : Int) = 52 := rfl
  have hbits : UnpackedFloat.pack .binary64 (.finite sign mantissa exponent hpos) =
      packedInfinity .binary64 sign := by
    rw [UnpackedFloat.pack, if_pos]
    dsimp only
    omega
  have hinfinite : (Float.Model.pack (.finite sign mantissa exponent hpos)).isFinite = false := by
    change (UnpackedFloat.unpack .binary64
      (UnpackedFloat.pack .binary64 (.finite sign mantissa exponent hpos))).isFinite = false
    rw [hbits]
    cases sign with
    | positive => rfl
    | negative => rfl
  rw [hinfinite] at h
  exact absurd h Bool.false_ne_true

/-- Shifting to the exponent of the format divides by the power of two by which the exponent
rises. -/
theorem shiftToTargetExponent_eq (mantissa : Nat) (exponent : Int) (accuracy : Accuracy) :
    ∃ places : Nat, places = (max (mantissa.log2 - 52 + exponent) (-1074) - exponent).toNat ∧
      shiftToTargetExponent .binary64 mantissa exponent accuracy =
        (ExtendedMantissa.ofMantissaAndAccuracy mantissa accuracy >>> places,
          exponent + places) := by
  refine ⟨_, rfl, ?_⟩
  have htarget : Format.binary64.targetExponent (Float.Model.totalExponent mantissa exponent) =
      max (mantissa.log2 - 52 + exponent) (-1074) := by
    have hbits : (Format.binary64.mantissaBits : Int) = 53 := rfl
    have hmin : Format.binary64.minExponent = -1074 := rfl
    rw [Format.targetExponent, Float.Model.totalExponent, hbits, hmin]
    omega
  unfold shiftToTargetExponent
  rw [htarget]
  rfl

/-- After the first rounding a number is finite exactly if it is zero, or the format has its
exponent and its length. -/
theorem isFinite_pack_rounded (sign : Sign) (mantissa : Nat) {exponent : Int} (accuracy : Accuracy)
    {extended : ExtendedMantissa} {raised : Int} (hleast : -1074 ≤ raised)
    (hfirst : shiftToTargetExponent .binary64 mantissa exponent accuracy = (extended, raised)) :
    (Float.Model.pack (roundWithAccuracy .binary64 sign mantissa exponent accuracy)).isFinite =
        true ↔
      extended.roundedMantissa = 0 ∨
        (raised ≤ 971 ∧ extended.roundedMantissa.log2 + raised ≤ 1023) := by
  obtain ⟨places, hplaces, hsecond⟩ :=
    shiftToTargetExponent_eq extended.roundedMantissa raised .exact
  simp only [roundWithAccuracy, hfirst, hsecond, mantissa_shiftRight,
    mantissa_ofMantissaAndAccuracy]
  by_cases hzero : extended.roundedMantissa = 0
  · simp only [hzero, Nat.zero_div, dite_true, true_or, iff_true]
    exact isFinite_pack_zero sign
  · have hne : extended.roundedMantissa / 2 ^ places ≠ 0 := by
      have hself := Nat.log2_self_le hzero
      have hpow : 2 ^ places ≤ 2 ^ extended.roundedMantissa.log2 :=
        Nat.pow_le_pow_right (by decide) (by omega)
      exact (Nat.div_pos (hpow.trans hself) (Nat.two_pow_pos places)).ne'
    rw [dif_neg hne, isFinite_pack_iff]
    omega

/-- A number with more than one binary digit is not zero. -/
theorem ne_zero_of_log2_pos {n : Nat} (h : 0 < n.log2) : n ≠ 0 := by
  rintro rfl
  rw [Nat.log2_zero] at h
  exact absurd h (Nat.lt_irrefl 0)

/-- A number up to a power of two has no more binary digits than it. -/
theorem log2_le_of_le_two_pow {n places : Nat} (h : n ≤ 2 ^ places) : n.log2 ≤ places := by
  rcases Nat.eq_zero_or_pos n with rfl | hpos
  · exact Nat.zero_le _
  · refine Nat.lt_succ_iff.mp ((Nat.log2_lt hpos.ne').mpr ?_)
    exact h.trans_lt (Nat.pow_lt_pow_right (by decide) (Nat.lt_succ_self places))

/-- A number of 1024 binary digits is rounded to one of them exactly if it lies below the middle
between the largest double and the power of two behind it. -/
theorem log2_roundedMantissa_le_iff {extended : ExtendedMantissa} {room : Nat}
    (hlength : extended.mantissa.log2 = 53 + room) :
    (extended >>> (room + 1)).roundedMantissa.log2 ≤ 52 ↔
      extended.mantissa < (2 ^ 54 - 1) * 2 ^ room := by
  have hne : extended.mantissa ≠ 0 := ne_zero_of_log2_pos (by omega)
  obtain ⟨hlow, hhigh⟩ := (Nat.log2_eq_iff hne).mp hlength
  have hunit : 0 < 2 ^ room := Nat.two_pow_pos room
  -- twice the mantissa that is kept, and the half behind it
  have hhalves := mantissa_shiftRight extended room
  have hleast : 2 ^ 53 ≤ extended.mantissa / 2 ^ room := by
    rwa [Nat.le_div_iff_mul_le hunit, ← Nat.pow_add]
  have hmost : extended.mantissa / 2 ^ room < 2 ^ 54 := by
    rw [Nat.div_lt_iff_lt_mul hunit, ← Nat.pow_add]
    exact hhigh.trans_le (Nat.pow_le_pow_right (by decide) (by omega))
  have hkept := le_roundedMantissa (extended >>> (room + 1))
  obtain ⟨hupper, hodd⟩ := roundedMantissa_shiftRightOne (extended >>> room)
  have hshift : extended >>> (room + 1) = (extended >>> room).shiftRightOne := rfl
  rw [mantissa_shiftRight, Nat.pow_succ, ← Nat.div_div_eq_div_mul] at hkept
  rw [hhalves] at hupper hodd
  rw [← hshift] at hupper hodd
  have hrounded : (extended >>> (room + 1)).roundedMantissa ≠ 0 := by omega
  rw [← Nat.div_lt_iff_lt_mul hunit, ← Nat.lt_succ_iff, Nat.log2_lt hrounded]
  omega

/-- A number is rounded to a finite one exactly if it lies below the middle between the largest
double and the power of two behind it. -/
theorem isFinite_pack_roundWithAccuracy (sign : Sign) (mantissa : Nat) {exponent : Int}
    (hexponent : exponent ≤ 970) (accuracy : Accuracy) :
    (Float.Model.pack (roundWithAccuracy .binary64 sign mantissa exponent accuracy)).isFinite =
        true ↔
      mantissa < (2 ^ 54 - 1) * 2 ^ (970 - exponent).toNat := by
  obtain ⟨room, hroom⟩ : ∃ room : Nat, (970 - exponent).toNat = room := ⟨_, rfl⟩
  obtain ⟨places, hplaces, hfirst⟩ := shiftToTargetExponent_eq mantissa exponent accuracy
  rw [isFinite_pack_rounded sign mantissa accuracy (by omega) hfirst, hroom]
  have hwhole := mantissa_ofMantissaAndAccuracy mantissa accuracy
  generalize ExtendedMantissa.ofMantissaAndAccuracy mantissa accuracy = extended at *
  subst hwhole
  have hkept := mantissa_shiftRight extended places
  have hlower := le_roundedMantissa (extended >>> places)
  have hupper := roundedMantissa_le (extended >>> places)
  rw [hkept] at hlower hupper
  have hself : 53 + room ≤ extended.mantissa.log2 →
      2 ^ extended.mantissa.log2 ≤ extended.mantissa :=
    fun hlength => Nat.log2_self_le (ne_zero_of_log2_pos (by omega))
  have hpositive : 53 + room ≤ extended.mantissa.log2 → 0 < extended.mantissa / 2 ^ places := by
    intro hlength
    have hpow : 2 ^ places ≤ 2 ^ extended.mantissa.log2 :=
      Nat.pow_le_pow_right (by decide) (by omega)
    exact Nat.div_pos (hpow.trans (hself hlength)) (Nat.two_pow_pos places)
  -- the number of its binary digits decides, unless it has as many as the largest double
  rcases Nat.lt_trichotomy extended.mantissa.log2 (53 + room) with hshort | hlong | hlonger
  · have hbelow : extended.mantissa < 2 ^ 53 * 2 ^ room := by
      rw [← Nat.pow_add]
      exact Nat.lt_log2_self.trans_le (Nat.pow_le_pow_right (by decide) hshort)
    have hquotient : extended.mantissa / 2 ^ places < 2 ^ 53 := by
      rw [Nat.div_lt_iff_lt_mul (Nat.two_pow_pos places), ← Nat.pow_add]
      exact Nat.lt_log2_self.trans_le (Nat.pow_le_pow_right (by decide) (by omega))
    have hlength := log2_le_of_le_two_pow (hupper.trans hquotient)
    exact iff_of_true (.inr ⟨by omega, by omega⟩) (by omega)
  · have hhalf := log2_roundedMantissa_le_iff hlong
    have hplaces' : places = room + 1 := by omega
    have hrounded := hpositive hlong.ge
    rw [← hplaces'] at hhalf
    rw [← hhalf]
    omega
  · have hbeyond : 2 ^ 54 * 2 ^ room ≤ extended.mantissa := by
      rw [← Nat.pow_add]
      exact (Nat.pow_le_pow_right (by decide) (by omega)).trans (hself hlonger.le)
    have hrounded := hpositive hlonger.le
    exact iff_of_false (by omega) (by omega)

/-! ## Quotients -/

/-- A quotient is rounded to a finite number exactly if it lies below the middle behind the largest
double. Before it is rounded the quotient is cut at some exponent, and it stays on its side. -/
theorem isFinite_pack_div (s₁ s₂ : Sign) {m₁ m₂ : Nat} (e₁ e₂ : Int) (h₁ : 0 < m₁) (h₂ : 0 < m₂) :
    ∃ cut : Int, cut = min (e₁ - e₂) (max (m₁.log2 + e₁ - (m₂.log2 + e₂) - 53) (-1074)) ∧
      (cut ≤ 970 →
        ((Float.Model.pack (UnpackedFloat.div .binary64 (.finite s₁ m₁ e₁ h₁)
            (.finite s₂ m₂ e₂ h₂))).isFinite = true ↔
          m₁ * 2 ^ (e₁ - e₂ - cut).toNat < (2 ^ 54 - 1) * 2 ^ (970 - cut).toNat * m₂)) := by
  refine ⟨_, rfl, fun hcut => ?_⟩
  have htarget : min (e₁ - e₂) (Format.binary64.targetExponent
      (Float.Model.totalExponent m₁ e₁ - Float.Model.totalExponent m₂ e₂)) =
      min (e₁ - e₂) (max (m₁.log2 + e₁ - (m₂.log2 + e₂) - 53) (-1074)) := by
    have hbits : (Format.binary64.mantissaBits : Int) = 53 := rfl
    have hmin : Format.binary64.minExponent = -1074 := rfl
    rw [Format.targetExponent, Float.Model.totalExponent, Float.Model.totalExponent, hbits, hmin]
    omega
  simp only [UnpackedFloat.div, divCore, htarget]
  rw [isFinite_pack_roundWithAccuracy _ _ hcut, Nat.div_lt_iff_lt_mul h₂, Nat.shiftLeft_eq]

/-- The reading of a finite double: its mantissa and its exponent are those of the format. -/
inductive InRange : UnpackedFloat → Prop where
  | zero (sign : Sign) : InRange (.zero sign)
  | finite {sign : Sign} {mantissa : Nat} {exponent : Int} {pos : 0 < mantissa}
      (mantissa_lt : mantissa < 2 ^ 53) (exponent_le : exponent ≤ 971) :
      InRange (.finite sign mantissa exponent pos)

/-- Finite doubles are in range. -/
theorem inRange_unpack {bits : BitVec Format.binary64.numBits}
    (h : (UnpackedFloat.unpack .binary64 bits).isFinite = true) :
    InRange (UnpackedFloat.unpack .binary64 bits) := by
  have hbias : (Format.binary64.exponentBias : Int) = 1023 := rfl
  have hwidth : (Format.binary64.mantissaBitsWithoutImplicit : Int) = 52 := rfl
  have hlt : (unpackExponent bits).toNat < 2048 := (unpackExponent bits).isLt
  unfold UnpackedFloat.unpack at *
  dsimp only at *
  split at h
  · split at h
    · exact absurd h Bool.false_ne_true
    · exact absurd h Bool.false_ne_true
  · next hfinite =>
    have hne : (unpackExponent bits).toNat ≠ 2047 := fun heq =>
      hfinite (BitVec.eq_of_toNat_eq heq)
    rw [if_neg hfinite]
    split
    · next hleast =>
      have hzero : (unpackExponent bits).toNat = 0 := by
        rw [hleast]
        rfl
      split
      · exact .zero _
      · refine .finite ((unpackMantissa bits).isLt.trans (by decide)) ?_
        omega
    · refine .finite (1#1 ++ unpackMantissa bits).isLt ?_
      omega

/-- A change of its sign leaves a double finite or not finite. -/
theorem isFinite_neg (x : Float) : (-x).isFinite = x.isFinite := by
  change (Float.Model.pack x.toModel.unpack.neg).isFinite = x.toModel.unpack.isFinite
  cases hfinite : x.toModel.unpack.isFinite with
  | true =>
    have hrange : InRange x.toModel.unpack := inRange_unpack hfinite
    generalize x.toModel.unpack = reading at *
    cases hrange with
    | zero sign => exact isFinite_pack_zero _
    | finite _ hexponent => exact isFinite_pack _ _ hexponent
  | false =>
    generalize x.toModel.unpack = reading at *
    cases reading with
    | notANumber => rfl
    | infinity sign =>
      cases sign with
      | positive => rfl
      | negative => rfl
    | zero => exact absurd hfinite.symm Bool.false_ne_true
    | finite => exact absurd hfinite.symm Bool.false_ne_true

/-- Whether a double is finite and at least one. -/
def atLeastOne (x : Float) : Bool :=
  match x.toModel.unpack with
  | .finite .positive mantissa exponent _ => decide (2 ^ (-exponent).toNat ≤ mantissa)
  | _ => false

/-- The powers of ten by which short decimals are divided are at least one. -/
theorem atLeastOne_powersOfTen (k : Nat) (h : k < Float.exactlyRepresentablePowersOfTen.size) :
    atLeastOne Float.exactlyRepresentablePowersOfTen[k] = true := by
  have hall : Float.exactlyRepresentablePowersOfTen.all atLeastOne = true := by decide +kernel
  exact Array.all_eq_true.mp hall k h

/-- A finite double that is divided by a double of at least one stays finite. -/
theorem isFinite_div {x y : Float} (hx : x.isFinite = true) (hy : atLeastOne y = true) :
    (x / y).isFinite = true := by
  change (Float.Model.pack (UnpackedFloat.div .binary64 x.toModel.unpack
    y.toModel.unpack)).isFinite = true
  have hrange : InRange x.toModel.unpack := inRange_unpack hx
  unfold atLeastOne at hy
  generalize x.toModel.unpack = dividend at *
  split at hy
  · next m₂ e₂ h₂ hdivisor =>
    rw [hdivisor]
    have hone := of_decide_eq_true hy
    cases hrange with
    | zero sign => exact isFinite_pack_zero _
    | @finite s₁ m₁ e₁ h₁ hmantissa hexponent =>
      obtain ⟨cut, hcut, hiff⟩ := isFinite_pack_div s₁ .positive e₁ e₂ h₁ h₂
      have hlength₁ : m₁.log2 < 53 := (Nat.log2_lt h₁.ne').mpr hmantissa
      have hlength₂ : (-e₂).toNat ≤ m₂.log2 := (Nat.le_log2 h₂.ne').mpr hone
      refine (hiff (by omega)).mpr ?_
      -- at most the largest double is left, which lies half a place below the overflow
      obtain ⟨room, hroom⟩ : ∃ room, (970 - cut).toNat = room := ⟨_, rfl⟩
      rw [hroom]
      calc m₁ * 2 ^ (e₁ - e₂ - cut).toNat
          ≤ m₁ * 2 ^ (1 + room + (-e₂).toNat) :=
            Nat.mul_le_mul_left _ (Nat.pow_le_pow_right (by decide) (by omega))
        _ = m₁ * 2 * 2 ^ room * 2 ^ (-e₂).toNat := by ring
        _ ≤ m₁ * 2 * 2 ^ room * m₂ := Nat.mul_le_mul_left _ hone
        _ < (2 ^ 54 - 1) * 2 ^ room * m₂ :=
            Nat.mul_lt_mul_of_pos_right
              (Nat.mul_lt_mul_of_pos_right (by omega) (Nat.two_pow_pos room)) h₂
  · exact absurd hy Bool.false_ne_true

/-! ## Decimals -/

/-- The least number that is rounded to infinity, the middle between the largest double and the
power of two behind it. -/
def overflow : Nat :=
  (2 ^ 54 - 1) * 2 ^ 970

/-- Some number is rounded to a finite one. -/
theorem overflow_pos : 0 < overflow := by
  unfold overflow
  positivity

/-- Binary places that two numbers have in common do not change their order. -/
theorem mul_two_pow_lt_iff (n factor room places : Nat) :
    n * 2 ^ places < factor * 2 ^ (room + places) ↔ n < factor * 2 ^ room := by
  rw [Nat.pow_add, ← Nat.mul_assoc, Nat.mul_lt_mul_right (Nat.two_pow_pos places)]

/-- A product of whole numbers is rounded to a finite number exactly if it lies below the
overflow. -/
theorem isFinite_pack_product {n d : Nat} (hn : 0 < n <<< 53) (hd : 0 < d) :
    (Float.Model.pack (UnpackedFloat.mul .binary64 (.finite .positive (n <<< 53) (-53) hn)
      (.finite .positive d 0 hd))).isFinite = true ↔ n * d < overflow := by
  have hroom : (970 - (-53 + 0) : Int).toNat = 970 + 53 := rfl
  simp only [UnpackedFloat.mul]
  rw [isFinite_pack_roundWithAccuracy _ _ (by decide), Nat.shiftLeft_eq, hroom, Nat.mul_right_comm,
    mul_two_pow_lt_iff, overflow]

/-- A quotient of whole numbers is rounded to a finite number exactly if it lies below the
overflow. -/
theorem isFinite_pack_quotient {n d : Nat} (hn : 0 < n) (hd : 0 < d) :
    (Float.Model.pack (UnpackedFloat.div .binary64 (.finite .positive n 0 hn)
      (.finite .positive d 0 hd))).isFinite = true ↔ n < overflow * d := by
  obtain ⟨cut, hcut, hiff⟩ := isFinite_pack_div .positive .positive 0 0 hn hd
  obtain ⟨places, hplaces⟩ : ∃ places : Nat, (0 - 0 - cut).toNat = places := ⟨_, rfl⟩
  have hroom : (970 - cut).toNat = 970 + places := by omega
  rw [hiff (by omega), hplaces, hroom, Nat.mul_right_comm, mul_two_pow_lt_iff, Nat.mul_right_comm,
    overflow]

/-- A decimal is rounded to a finite number exactly if it lies below the overflow. -/
theorem isFinite_ofScientific_model (n k : Nat) :
    (Float.Model.ofScientific n (-(k : Int))).isFinite = true ↔ n < overflow * 10 ^ k := by
  have hcapacity : (2 : Int) ^ Format.binary64.exponentBits = 2048 := rfl
  have hten : 0 < 10 ^ k := Nat.pow_pos (by decide)
  rw [Float.Model.ofScientific, UnpackedFloat.ofScientific]
  by_cases hzero : n = 0
  · rw [dif_pos hzero, hzero]
    exact iff_of_true (isFinite_pack_zero _) (Nat.mul_pos overflow_pos hten)
  rw [dif_neg hzero, if_neg (by omega)]
  by_cases htiny : -(k : Int) < -(2 ^ Format.binary64.exponentBits + n.log2)
  · rw [if_pos htiny]
    refine iff_of_true (isFinite_pack_zero _) ?_
    calc n < 2 ^ (n.log2 + 1) := Nat.lt_log2_self
      _ ≤ 10 ^ (n.log2 + 1) := Nat.pow_le_pow_left (by decide) _
      _ ≤ 10 ^ k := Nat.pow_le_pow_right (by decide) (by omega)
      _ ≤ overflow * 10 ^ k := Nat.le_mul_of_pos_left _ overflow_pos
  rw [if_neg htiny]
  by_cases hwhole : k = 0
  · subst hwhole
    rw [if_pos (by omega), Nat.pow_zero, Nat.mul_one]
    exact (isFinite_pack_product _ Nat.one_pos).trans (by rw [Nat.mul_one])
  · rw [if_neg (by omega), isFinite_pack_quotient, Int.neg_neg, Int.toNat_natCast]

/-- Short numbers lie below the overflow. -/
theorem lt_overflow {n : Nat} (h : n < 2 ^ 64) : n < overflow := by
  unfold overflow
  have hpow : 2 ^ 64 ≤ 2 ^ 970 := by gcongr <;> decide
  omega

/-- Words of 64 bits are finite as doubles. -/
theorem isFinite_toFloat (n : UInt64) : n.toFloat.isFinite = true := by
  change (Float.Model.pack (UnpackedFloat.normalize .binary64 n.toNat 0 .positive)).isFinite = true
  unfold UnpackedFloat.normalize
  split
  · next hneg =>
    rw [Int.compare_eq_lt] at hneg
    omega
  · exact isFinite_pack_zero _
  · simp only [UnpackedFloat.round, decreaseExponent]
    generalize (0 - Format.binary64.targetExponent _).toNat = places
    have hroom : (970 - (0 - (places : Int))).toNat = 970 + places := by omega
    rw [isFinite_pack_roundWithAccuracy _ _ (by omega), Int.toNat_natCast, Nat.shiftLeft_eq, hroom,
      mul_two_pow_lt_iff, ← overflow]
    exact lt_overflow n.toNat_lt

/-- A decimal is read as a finite double exactly if it lies below the overflow. -/
theorem isFinite_ofScientific_iff (n k : Nat) :
    (Float.ofScientific n true k).isFinite = true ↔ n < overflow * 10 ^ k := by
  rw [Float.ofScientific]
  split
  · next hshort =>
    -- few digits are divided by an exact power of ten, and no such quotient is large
    refine iff_of_true ?_ ?_
    · rw [if_pos rfl]
      exact isFinite_div (isFinite_toFloat _) (atLeastOne_powersOfTen k _)
    · have hlt : n < overflow := lt_overflow (hshort.1.trans (by decide))
      exact hlt.trans_le (Nat.le_mul_of_pos_right _ (Nat.pow_pos (by decide)))
  · change (Float.Model.ofScientific n (Int.negOfNat k)).isFinite = true ↔ _
    rw [Int.negOfNat_eq, Int.ofNat_eq_natCast, isFinite_ofScientific_model]

/-- Whole numbers beyond the signed range and within 64 bits are finite doubles. -/
theorem isFinite_ofInt {n : Int} (hlow : 0x8000000000000000 ≤ n)
    (hhigh : n < 0x10000000000000000) : (Float.ofInt n).isFinite = true := by
  obtain ⟨n, rfl⟩ := Int.eq_ofNat_of_zero_le (Int.le_trans (by decide) hlow)
  change (Float.ofScientific n false 0).isFinite = true
  rw [Float.ofScientific, dif_neg (by omega)]
  change (Float.Model.ofScientific n (-(0 : Nat))).isFinite = true
  rw [isFinite_ofScientific_model, Nat.pow_zero, Nat.mul_one]
  exact lt_overflow (by omega)

end CallScript.Decimal
