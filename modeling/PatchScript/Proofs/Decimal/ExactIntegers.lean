import Mathlib
import PatchScript.Decimal.Layout

/-!
# Integers that doubles hold exactly

An integer of at most 53 bits is converted to a double without rounding.  The
conversion shifts the leading bit into the place of the hidden bit, which is where
a double has it already, so a double that denotes such an integer is got back from
the integer.  Only the sign of a zero is lost on the way.
-/

namespace PatchScript
namespace Decimal

open Float.Model (Format totalExponent UnpackedFloat)
open Float.Model.UnpackedFloat

variable {x : Float} {number : Int} (sign : Sign)

theorem eq_of_toBits {y : Float} (sameBits : x.toBits.toNat = y.toBits.toNat) : x = y :=
  Float.toBits_inj.mp (UInt64.toNat_inj.mp sameBits)

/-! ## The three fields of a double -/

/-- The sign of a double. -/
def signOf (x : Float) : Sign :=
  if isSigned x then .negative else .positive

/-- The exponent bits of a double. -/
def biasedExponent (x : Float) : Nat :=
  x.toBits.toNat / 2 ^ 52 % 2 ^ 11

/-- The bits of the significand of a double. -/
def fraction (x : Float) : Nat :=
  x.toBits.toNat % 2 ^ 52

theorem fraction_lt (x : Float) : fraction x < 2 ^ 52 := Nat.mod_lt _ (by decide)

theorem fraction_eq_zero {places : Nat} (far : 52 ≤ places)
    (integral : fraction x % 2 ^ places = 0) : fraction x = 0 := by
  have bound : fraction x < 2 ^ places :=
    Nat.lt_of_lt_of_le (fraction_lt x) (Nat.pow_le_pow_right (by decide) far)
  rwa [Nat.mod_eq_of_lt bound] at integral

theorem toNat_signOf (x : Float) : (signOf x).toBitVec.toNat = x.toBits.toNat / 2 ^ 63 := by
  have wordBound := x.toBits.toNat_lt
  by_cases signed : 2 ^ 63 ≤ x.toBits.toNat
  · have negative : signOf x = .negative := if_pos (decide_eq_true signed)
    rw [negative]
    change 1 = _
    omega
  · have positive : signOf x = .positive := if_neg (by simpa [isSigned] using signed)
    rw [positive]
    change 0 = _
    omega

theorem toNat_toBits (x : Float) :
    x.toBits.toNat =
      (signOf x).toBitVec.toNat * 2 ^ 63 + biasedExponent x * 2 ^ 52 + fraction x := by
  have wordBound := x.toBits.toNat_lt
  rw [toNat_signOf, biasedExponent, fraction]
  omega

theorem ofFloat_subnormal (subnormal : biasedExponent x = 0) :
    Binary.ofFloat x =
      { significand := fraction x, exponent := -1074, narrowBelow := false } :=
  if_pos subnormal

theorem ofFloat_normal (normal : biasedExponent x ≠ 0) :
    Binary.ofFloat x =
      { significand := 2 ^ 52 + fraction x
        exponent := (biasedExponent x : Int) - 1075
        narrowBelow := fraction x == 0 && biasedExponent x > 1 } :=
  if_neg normal

/-- The whole part of `significand * 2 ^ exponent`. -/
def wholePart (significand : Nat) (exponent : Int) : Nat :=
  significand / 2 ^ (-exponent).toNat * 2 ^ exponent.toNat

/-! ## Packing and shifting -/

theorem exponentBias_binary64 : Format.binary64.exponentBias = 1023 := rfl

theorem toNat_packComponents (exponent : BitVec 11) (fraction : BitVec 52) :
    (packComponents .binary64 sign exponent fraction).toNat =
      sign.toBitVec.toNat * 2 ^ 63 + exponent.toNat * 2 ^ 52 + fraction.toNat := by
  change (sign.toBitVec ++ exponent ++ fraction).toNat = _
  rw [BitVec.toNat_append, BitVec.toNat_append,
    ← Nat.shiftLeft_add_eq_or_of_lt exponent.isLt, ← Nat.shiftLeft_add_eq_or_of_lt fraction.isLt]
  simp only [Nat.shiftLeft_eq]
  omega

theorem log2_mul_two_pow {number : Nat} (nonzero : number ≠ 0) (places : Nat) :
    (number * 2 ^ places).log2 = number.log2 + places := by
  have power : 0 < 2 ^ places := Nat.two_pow_pos places
  rw [Nat.log2_eq_iff (Nat.mul_ne_zero nonzero (Nat.ne_of_gt power)), Nat.pow_add,
    Nat.add_right_comm, Nat.pow_add]
  exact ⟨Nat.mul_le_mul_right _ (Nat.log2_self_le nonzero),
    Nat.mul_lt_mul_of_pos_right Nat.lt_log2_self power⟩

/-- Shifting zeros out leaves nothing behind. -/
theorem shiftRight_scaled (significand places : Nat) :
    (ExtendedMantissa.mk (significand * 2 ^ places) false false) >>> places =
      ExtendedMantissa.mk significand false false := by
  induction places generalizing significand with
  | zero =>
    rw [Nat.pow_zero, Nat.mul_one]
    rfl
  | succ places ih =>
    have step : significand * 2 ^ (places + 1) = significand * 2 * 2 ^ places := by
      rw [Nat.pow_succ']
      exact (Nat.mul_assoc ..).symm
    change ExtendedMantissa.shiftRightOne
      (ExtendedMantissa.mk (significand * 2 ^ (places + 1)) false false >>> places) = _
    rw [step, ih]
    simp [ExtendedMantissa.shiftRightOne]

/-! ## Doubles with a hidden bit -/

/-- The significand and the exponent of a double that is neither zero nor
subnormal: `significand * 2 ^ exponent`, with the hidden bit set. -/
@[ext] structure Normal where
  significand : Nat
  exponent : Int
  hiddenBit : 2 ^ 52 ≤ significand
  bounded : significand < 2 ^ 53
  notSubnormal : -1074 ≤ exponent
  notInfinite : exponent ≤ 971

namespace Normal

theorem significand_ne_zero (normal : Normal) : normal.significand ≠ 0 := by
  have hiddenBit := normal.hiddenBit
  omega

theorem log2_significand (normal : Normal) : normal.significand.log2 = 52 :=
  (Nat.log2_eq_iff normal.significand_ne_zero).mpr ⟨normal.hiddenBit, normal.bounded⟩

/-- The parts of a double with these parts and a sign. -/
def unpacked (normal : Normal) (sign : Sign) : UnpackedFloat :=
  .finite sign normal.significand normal.exponent (Nat.pos_of_ne_zero normal.significand_ne_zero)

/-- The double with these parts and a sign. -/
def toFloat (normal : Normal) (sign : Sign) : Float :=
  .ofModel (Float.Model.pack (normal.unpacked sign))

/-! ## Bits -/

/-- The bits of the biased exponent. -/
def exponentField (normal : Normal) : BitVec 11 :=
  BitVec.ofNat 11 (normal.exponent + 1075).toNat

/-- The bits of the significand without the hidden one. -/
def fractionField (normal : Normal) : BitVec 52 :=
  BitVec.ofNat 52 normal.significand

section

variable (normal : Normal) (places : Nat)

theorem toNat_exponentField : normal.exponentField.toNat = (normal.exponent + 1075).toNat := by
  have notSubnormal := normal.notSubnormal
  have notInfinite := normal.notInfinite
  rw [exponentField, BitVec.toNat_ofNat, Nat.mod_eq_of_lt (by omega)]

theorem toNat_fractionField : normal.fractionField.toNat = normal.significand - 2 ^ 52 := by
  have hiddenBit := normal.hiddenBit
  have bounded := normal.bounded
  rw [fractionField, BitVec.toNat_ofNat]
  omega

theorem pack_unpacked :
    pack .binary64 (normal.unpacked sign) =
      packComponents .binary64 sign normal.exponentField normal.fractionField := by
  have notInfinite := normal.notInfinite
  have biased : normal.exponent + Format.binary64.exponentBias + (52 : Nat) =
      normal.exponent + 1075 := by
    rw [exponentBias_binary64]
    omega
  have finite : ¬ 2 ^ 11 ≤ (normal.exponent + 1075).toNat + 1 := by omega
  have full : normal.significand.log2 + 1 = Format.binary64.mantissaBits := by
    rw [normal.log2_significand]
    rfl
  change (if 2 ^ 11 ≤ (normal.exponent + Format.binary64.exponentBias + (52 : Nat)).toNat + 1
    then packedInfinity .binary64 sign
    else if normal.significand.log2 + 1 = Format.binary64.mantissaBits then
      packComponents .binary64 sign
        (BitVec.ofNat 11 (normal.exponent + Format.binary64.exponentBias + (52 : Nat)).toNat)
        (BitVec.ofNat 52 normal.significand)
    else packComponents .binary64 sign 0 (BitVec.ofNat 52 normal.significand)) = _
  rw [biased, if_neg finite, if_pos full]
  rfl

theorem toBits_toFloat :
    (normal.toFloat sign).toBits.toNat =
      sign.toBitVec.toNat * 2 ^ 63 + (normal.exponent + 1075).toNat * 2 ^ 52 +
        (normal.significand - 2 ^ 52) := by
  change (pack .binary64 (normal.unpacked sign)).toNat = _
  rw [normal.pack_unpacked, toNat_packComponents, normal.toNat_exponentField,
    normal.toNat_fractionField]

/-- Packing a normal double loses nothing. -/
theorem unpack_toFloat : (normal.toFloat sign).toModel.unpack = normal.unpacked sign := by
  have hiddenBit := normal.hiddenBit
  have notSubnormal := normal.notSubnormal
  have notInfinite := normal.notInfinite
  have exponentValue := normal.toNat_exponentField
  have notOnes : normal.exponentField ≠ -1#11 := by
    intro ones
    rw [ones] at exponentValue
    change 2047 = _ at exponentValue
    omega
  have notZero : normal.exponentField ≠ 0#11 := by
    intro zero
    rw [zero] at exponentValue
    change 0 = _ at exponentValue
    omega
  have significand : (1#1 ++ normal.fractionField).toNat = normal.significand := by
    rw [BitVec.toNat_append, ← Nat.shiftLeft_add_eq_or_of_lt normal.fractionField.isLt,
      normal.toNat_fractionField]
    rw [BitVec.toNat_ofNat, Nat.shiftLeft_eq]
    omega
  have exponent : (normal.exponentField.toNat : Int) -
      (Format.binary64.exponentBias + (52 : Nat)) = normal.exponent := by
    rw [exponentBias_binary64]
    omega
  change unpack .binary64 (pack .binary64 (normal.unpacked sign)) = _
  rw [normal.pack_unpacked]
  change (if unpackExponent (packComponents .binary64 sign _ _) = -1#11 then _
    else if unpackExponent (packComponents .binary64 sign _ _) = 0#11 then _
    else UnpackedFloat.finite _ _ _ _) = _
  rw [unpackExponent_packComponents, if_neg notOnes, if_neg notZero]
  refine (UnpackedFloat.finite.injEq ..).mpr ⟨?_, ?_, ?_⟩
  · rw [unpackSign_packComponents, Sign.ofBitVec_toBitVec]
  · rw [unpackMantissa_packComponents]
    exact significand
  · exact exponent

/-! ## Rounding -/

theorem targetExponent_scaled :
    Format.binary64.targetExponent
        (totalExponent (normal.significand * 2 ^ places) (normal.exponent - places)) =
      normal.exponent := by
  have notSubnormal := normal.notSubnormal
  have minimum : Format.binary64.minExponent = -1074 := rfl
  have digits : Format.binary64.mantissaBits = 53 := rfl
  have length : (normal.significand * 2 ^ places).log2 = 52 + places := by
    rw [log2_mul_two_pow normal.significand_ne_zero, normal.log2_significand]
  rw [Format.targetExponent, totalExponent, length, minimum, digits]
  omega

theorem shiftToTargetExponent_scaled :
    shiftToTargetExponent .binary64 (normal.significand * 2 ^ places)
        (normal.exponent - places) .exact =
      (⟨normal.significand, false, false⟩, normal.exponent) := by
  have distance : (normal.exponent - (normal.exponent - places)).toNat = places := by omega
  have exponent : normal.exponent - places + places = normal.exponent := by omega
  simp only [shiftToTargetExponent, normal.targetExponent_scaled, shiftToExponent, distance,
    exponent, ExtendedMantissa.ofMantissaAndAccuracy, shiftRight_scaled]

/-- A significand that has too many bits only by trailing zeros is rounded exactly. -/
theorem round_scaled :
    roundWithAccuracy .binary64 sign (normal.significand * 2 ^ places)
        (normal.exponent - places) .exact = normal.unpacked sign := by
  have again := normal.shiftToTargetExponent_scaled 0
  rw [Nat.pow_zero, Nat.mul_one, Int.natCast_zero, Int.sub_zero] at again
  rw [roundWithAccuracy, normal.shiftToTargetExponent_scaled]
  change (match shiftToTargetExponent .binary64 normal.significand normal.exponent .exact with
    | (shifted, exponent) =>
      if zero : shifted.mantissa = 0 then UnpackedFloat.zero sign
      else .finite sign shifted.mantissa exponent (Nat.pos_of_ne_zero zero)) = _
  rw [again]
  exact dif_neg normal.significand_ne_zero

end

/-! ## Integers of at most 53 bits -/

/-- The parts of a positive integer below `2 ^ 53`. -/
def ofNat (number : Nat) (nonzero : number ≠ 0) (small : number < 2 ^ 53) : Normal where
  significand := number * 2 ^ (52 - number.log2)
  exponent := (number.log2 : Int) - 52
  hiddenBit := by
    have logBound : number.log2 < 53 := (Nat.log2_lt nonzero).mpr small
    have split : 2 ^ 52 = 2 ^ number.log2 * 2 ^ (52 - number.log2) := by
      rw [← Nat.pow_add, Nat.add_sub_cancel' (by omega)]
    rw [split]
    exact Nat.mul_le_mul_right _ (Nat.log2_self_le nonzero)
  bounded := by
    have logBound : number.log2 < 53 := (Nat.log2_lt nonzero).mpr small
    have split : 2 ^ 53 = 2 ^ (number.log2 + 1) * 2 ^ (52 - number.log2) := by
      rw [← Nat.pow_add, show number.log2 + 1 + (52 - number.log2) = 53 by omega]
    rw [split]
    exact Nat.mul_lt_mul_of_pos_right Nat.lt_log2_self (Nat.two_pow_pos _)
  notSubnormal := by omega
  notInfinite := by
    have logBound : number.log2 < 53 := (Nat.log2_lt nonzero).mpr small
    omega

section

variable (number : Nat) (nonzero : number ≠ 0) (small : number < 2 ^ 53)

/-- Rounding a small integer only moves its leading bit into place. -/
theorem round_natural :
    UnpackedFloat.round .binary64 .positive number 0 =
      (ofNat number nonzero small).unpacked .positive := by
  have logBound : number.log2 < 53 := (Nat.log2_lt nonzero).mpr small
  have minimum : Format.binary64.minExponent = -1074 := rfl
  have digits : Format.binary64.mantissaBits = 53 := rfl
  have target : Format.binary64.targetExponent (totalExponent number 0) =
      (number.log2 : Int) - 52 := by
    rw [Format.targetExponent, totalExponent, minimum, digits]
    omega
  have distance : (0 - ((number.log2 : Int) - 52)).toNat = 52 - number.log2 := by omega
  have exponent : (0 : Int) - (52 - number.log2 : Nat) = (number.log2 : Int) - 52 := by omega
  have exact := (ofNat number nonzero small).round_scaled .positive 0
  rw [Nat.pow_zero, Nat.mul_one, Int.natCast_zero, Int.sub_zero] at exact
  simp only [UnpackedFloat.round, target, decreaseExponent, distance, exponent, Nat.shiftLeft_eq]
  exact exact

theorem toFloat_toUInt64 :
    number.toUInt64.toFloat = (ofNat number nonzero small).toFloat .positive := by
  have word : number.toUInt64.toNat = number := by
    rw [Nat.toUInt64, UInt64.toNat_ofNat']
    omega
  have sign : compare (number : Int) 0 = .gt := Int.compare_eq_gt.mpr (by omega)
  change Float.ofModel (Float.Model.pack
    (UnpackedFloat.normalize .binary64 (number.toUInt64.toNat : Int) 0 .positive)) = _
  simp only [word, UnpackedFloat.normalize, sign, Int.toNat_natCast,
    round_natural number nonzero small]
  rfl

end

/-- Multiplying by one, which is what the exponent of an integer literal comes to,
is exact. -/
theorem mul_one (normal : Normal) :
    normal.toFloat .positive * Float.ofBits 0x3FF0000000000000 = normal.toFloat .positive := by
  have one : (Float.ofBits 0x3FF0000000000000).toModel.unpack =
      .finite .positive (2 ^ 52) (-52) (by decide) := by rfl
  change Float.ofModel (Float.Model.pack (mul .binary64 (normal.toFloat .positive).toModel.unpack
    (Float.ofBits 0x3FF0000000000000).toModel.unpack)) = _
  rw [one, normal.unpack_toFloat]
  exact congrArg (fun parts => Float.ofModel (Float.Model.pack parts))
    (normal.round_scaled .positive 52)

theorem ofNat_eq (number : Nat) (nonzero : number ≠ 0) (small : number < 2 ^ 53) :
    Float.ofNat number = (ofNat number nonzero small).toFloat .positive := by
  have fast : number < 2 ^ 53 ∧ 0 ≤ 22 := ⟨small, by decide⟩
  change Float.ofScientific number false 0 = _
  rw [Float.ofScientific, dif_pos fast, ← mul_one, ← toFloat_toUInt64]
  rfl

theorem neg_toFloat (normal : Normal) :
    (normal.toFloat .positive).neg = normal.toFloat .negative := by
  change Float.ofModel (Float.Model.pack (normal.toFloat .positive).toModel.unpack.neg) = _
  rw [normal.unpack_toFloat]
  rfl

/-- The parts of a double whose exponent bits are neither all zero nor all one. -/
def ofFloat (x : Float) (notZero : biasedExponent x ≠ 0)
    (notOnes : biasedExponent x ≤ 2046) : Normal where
  significand := 2 ^ 52 + fraction x
  exponent := (biasedExponent x : Int) - 1075
  hiddenBit := by omega
  bounded := by
    have fractionBound := fraction_lt x
    omega
  notSubnormal := by omega
  notInfinite := by omega

theorem toFloat_ofFloat (x : Float) (notZero : biasedExponent x ≠ 0)
    (notOnes : biasedExponent x ≤ 2046) : (ofFloat x notZero notOnes).toFloat (signOf x) = x := by
  apply eq_of_toBits
  have biased : ((biasedExponent x : Int) - 1075 + 1075).toNat = biasedExponent x := by omega
  have exponent : (ofFloat x notZero notOnes).exponent = (biasedExponent x : Int) - 1075 := rfl
  have significand : (ofFloat x notZero notOnes).significand = 2 ^ 52 + fraction x := rfl
  rw [toBits_toFloat, toNat_toBits x, exponent, significand, biased]
  omega

variable (normal : Normal) (integral : normal.significand % 2 ^ (-normal.exponent).toNat = 0)
include integral

theorem wholePart_ne_zero : wholePart normal.significand normal.exponent ≠ 0 := by
  intro zero
  rcases Nat.mul_eq_zero.mp zero with quotient | power
  · have nonzero := normal.significand_ne_zero
    have division := Nat.div_add_mod normal.significand (2 ^ (-normal.exponent).toNat)
    rw [quotient, integral, Nat.mul_zero] at division
    omega
  · exact absurd power (Nat.ne_of_gt (Nat.two_pow_pos _))

/-- A normal double with an integral magnitude of at most 53 bits is that integer. -/
theorem ofNat_wholePart (small : wholePart normal.significand normal.exponent ≤ 2 ^ 53) :
    Float.ofNat (wholePart normal.significand normal.exponent) = normal.toFloat .positive := by
  have bounded := normal.bounded
  have hiddenBit := normal.hiddenBit
  by_cases scaledDown : normal.exponent ≤ 0
  · obtain ⟨places, exponent⟩ : ∃ places : Nat, normal.exponent = -places :=
      ⟨(-normal.exponent).toNat, by omega⟩
    obtain ⟨number, significand⟩ : 2 ^ places ∣ normal.significand := by
      rw [exponent] at integral
      exact Nat.dvd_of_mod_eq_zero (by simpa using integral)
    have power : 0 < 2 ^ places := Nat.two_pow_pos places
    have nonzero : number ≠ 0 := by
      rintro rfl
      exact normal.significand_ne_zero significand
    have magnitude : wholePart normal.significand normal.exponent = number := by
      have down : (-(-(places : Int))).toNat = places := by omega
      have up : (-(places : Int)).toNat = 0 := by omega
      rw [wholePart, significand, exponent, down, up, Nat.mul_div_cancel_left number power,
        Nat.pow_zero, Nat.mul_one]
    have numberSmall : number < 2 ^ 53 := by
      have := Nat.le_mul_of_pos_left number power
      omega
    have length := normal.log2_significand
    rw [significand, Nat.mul_comm, log2_mul_two_pow nonzero] at length
    have same : ofNat number nonzero numberSmall = normal := by
      apply Normal.ext
      · change number * 2 ^ (52 - number.log2) = _
        rw [significand, ← length, Nat.add_sub_cancel_left, Nat.mul_comm]
      · change (number.log2 : Int) - 52 = _
        omega
    rw [magnitude, ofNat_eq number nonzero numberSmall, same]
  -- Scaled up, the least normal significand already gives `2 ^ 53`.
  · have whole : (-normal.exponent).toNat = 0 := by omega
    rw [wholePart, whole, Nat.pow_zero, Nat.div_one] at small ⊢
    have doubled : normal.significand * 2 ^ 1 ≤ normal.significand * 2 ^ normal.exponent.toNat :=
      Nat.mul_le_mul_left _ (Nat.pow_le_pow_right (by decide) (by omega))
    have significand : normal.significand = 2 ^ 52 := by omega
    have exponent : normal.exponent = 1 := by
      rw [significand, ← Nat.pow_add] at small
      have := (Nat.pow_le_pow_iff_right (by decide : 1 < 2)).mp small
      omega
    apply eq_of_toBits
    rw [toBits_toFloat, significand, exponent]
    decide

end Normal

/-! ## The integers that doubles denote -/

/-- A double without a negative zero. -/
def unsignedZero (x : Float) : Float :=
  if x = -0.0 then 0.0 else x

theorem ofInt_neg {number : Nat} (nonzero : number ≠ 0) :
    Float.ofInt (-(number : Int)) = (Float.ofNat number).neg := by
  obtain ⟨below, rfl⟩ := Nat.exists_eq_succ_of_ne_zero nonzero
  rfl

/-- What the decoded bits say about the integer a double denotes. -/
theorem integer?_eq_some {significand : Nat} {exponent : Int} {narrowBelow : Bool}
    (decoded : Binary.ofFloat x = ⟨significand, exponent, narrowBelow⟩)
    (denoted : integer? x = some number) :
    significand % 2 ^ (-exponent).toNat = 0 ∧
      number = if isSigned x then -(wholePart significand exponent : Int)
        else wholePart significand exponent := by
  simp only [integer?, decoded, Option.ite_none_left_eq_some, Option.ite_none_right_eq_some,
    Option.some.injEq] at denoted
  obtain ⟨-, integral, -, value⟩ := denoted
  exact ⟨integral, value.symm⟩

/-- Both zeros denote zero. -/
theorem integer?_of_zero (finite : (x.isNaN || x.isInf) = false) (subnormal : biasedExponent x = 0)
    (zero : fraction x = 0) : integer? x = some 0 := by
  have noSign : (if isSigned x then -((0 : Nat) : Int) else (0 : Nat)) = 0 := by
    split <;> rfl
  simp only [integer?, finite, ofFloat_subnormal subnormal, zero, Nat.zero_mod, Nat.zero_div,
    Nat.zero_mul, if_true, noSign]
  rfl

/-- A double without exponent bits that denotes an integer is a zero. -/
theorem ofInt_of_integer?_subnormal (denoted : integer? x = some number)
    (subnormal : biasedExponent x = 0) : Float.ofInt number = unsignedZero x := by
  obtain ⟨integral, value⟩ := integer?_eq_some (ofFloat_subnormal subnormal) denoted
  have zero : fraction x = 0 := fraction_eq_zero (by decide) integral
  have number_eq : number = 0 := by
    rw [value, wholePart, zero, Nat.zero_div, Nat.zero_mul]
    split <;> rfl
  have bits := toNat_toBits x
  rw [subnormal, zero] at bits
  rw [number_eq, unsignedZero]
  split
  · rfl
  · rename_i notNegativeZero
    cases sign : signOf x with
    | positive =>
      symm
      apply eq_of_toBits
      rw [bits, sign]
      decide
    | negative =>
      refine absurd (eq_of_toBits ?_) notNegativeZero
      rw [bits, sign]
      decide

/-- Reading the integer that a double denotes gives the double back, apart from the
sign of zero. -/
theorem ofInt_of_integer? (denoted : integer? x = some number) (small : number.natAbs ≤ 2 ^ 53) :
    Float.ofInt number = unsignedZero x := by
  by_cases subnormal : biasedExponent x = 0
  · exact ofInt_of_integer?_subnormal denoted subnormal
  obtain ⟨integral, value⟩ := integer?_eq_some (ofFloat_normal subnormal) denoted
  have wholeSmall : wholePart (2 ^ 52 + fraction x) ((biasedExponent x : Int) - 1075) ≤ 2 ^ 53 := by
    split at value <;> omega
  -- All exponent bits set would make the magnitude far too large.
  have notOnes : biasedExponent x ≤ 2046 := by
    apply Nat.le_of_not_lt
    intro ones
    have scaledUp : (-((biasedExponent x : Int) - 1075)).toNat = 0 := by omega
    have quadrupled : (2 ^ 52 + fraction x) * 2 ^ 2 ≤
        (2 ^ 52 + fraction x) * 2 ^ ((biasedExponent x : Int) - 1075).toNat :=
      Nat.mul_le_mul_left _ (Nat.pow_le_pow_right (by decide) (by omega))
    rw [wholePart, scaledUp, Nat.pow_zero, Nat.div_one] at wholeSmall
    omega
  have notNegativeZero : x ≠ -0.0 := by
    rintro rfl
    exact subnormal rfl
  have natural := (Normal.ofFloat x subnormal notOnes).ofNat_wholePart integral wholeSmall
  have nonzero := (Normal.ofFloat x subnormal notOnes).wholePart_ne_zero integral
  have same := Normal.toFloat_ofFloat x subnormal notOnes
  rw [unsignedZero, if_neg notNegativeZero, value]
  cases signed : isSigned x with
  | false =>
    rw [signOf, signed] at same
    exact natural.trans same
  | true =>
    rw [signOf, signed] at same
    calc Float.ofInt (-(wholePart (2 ^ 52 + fraction x) ((biasedExponent x : Int) - 1075) : Int))
      _ = (Float.ofNat _).neg := ofInt_neg nonzero
      _ = ((Normal.ofFloat x subnormal notOnes).toFloat .positive).neg := by rw [← natural]; rfl
      _ = (Normal.ofFloat x subnormal notOnes).toFloat .negative := Normal.neg_toFloat _
      _ = x := same

/-- An integer below `2 ^ 53` is denoted by the double that it is converted to. -/
theorem integer?_ofNat {number : Nat} (small : number < 2 ^ 53) :
    integer? (Float.ofNat number) = some ↑number := by
  by_cases zero : number = 0
  · subst zero
    exact integer?_of_zero rfl rfl rfl
  have logBound : number.log2 < 53 := (Nat.log2_lt zero).mpr small
  rw [Normal.ofNat_eq number zero small]
  set normal := Normal.ofNat number zero small
  have exponent : normal.exponent = (number.log2 : Int) - 52 := rfl
  have significand : normal.significand = number * 2 ^ (52 - number.log2) := rfl
  have hiddenBit := normal.hiddenBit
  have bounded := normal.bounded
  have bits := normal.toBits_toFloat .positive
  have finite : ((normal.toFloat .positive).isNaN || (normal.toFloat .positive).isInf) = false := by
    change ((normal.toFloat .positive).toModel.unpack.isNaN ||
      (normal.toFloat .positive).toModel.unpack.isInf) = false
    rw [normal.unpack_toFloat]
    rfl
  generalize normal.toFloat .positive = x at bits finite ⊢
  rw [show Sign.positive.toBitVec.toNat = 0 from rfl] at bits
  have biased : biasedExponent x = number.log2 + 1023 := by
    rw [biasedExponent]
    omega
  have rest : 2 ^ 52 + fraction x = number * 2 ^ (52 - number.log2) := by
    rw [fraction]
    omega
  have unsigned : isSigned x = false := by
    simp only [isSigned, Nat.pow_eq, decide_eq_false_iff_not]
    omega
  have down : (-(((number.log2 + 1023 : Nat) : Int) - 1075)).toNat = 52 - number.log2 := by omega
  have up : (((number.log2 + 1023 : Nat) : Int) - 1075).toNat = 0 := by omega
  have inRange : -integerBound ≤ (number : Int) ∧ (number : Int) < integerBound := by
    rw [integerBound]
    omega
  simp only [integer?, finite, ofFloat_normal (show biasedExponent x ≠ 0 by omega), rest, biased,
    down, up, unsigned]
  simp [inRange]

end Decimal
end PatchScript
