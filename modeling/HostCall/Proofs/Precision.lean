import HostCall.Precision
import Mathlib

/-!
# A number of single precision comes back from a double

A format keeps a number by one mantissa and one exponent (`Canonical`): either the
mantissa has all its digits, or the exponent is the least one.  Rounding a number to a
format finds that form whenever there is one, whether digits have to be added
(`round_of_shiftLeft`) or zeros to be dropped (`round_shiftLeft`), and packing keeps it
(`unpack_pack_finite`).

A double has more digits and a wider range of exponents than a number of single
precision, so widening finds a canonical double and narrowing finds the number again:
`narrow_widen`.  All but the last section is about any format whose exponent has two bits
or more.
-/

set_option autoImplicit false

namespace HostCall

namespace Precision

open Float.Model (Format UnpackedFloat totalExponent)
open Float.Model.UnpackedFloat

variable {format : Format}

/-! ## The form a format keeps a number in -/

/-- The mantissa and the exponent are those the format keeps a number by: the exponent
is the one the format wants for it, and is not so large that the number would be packed
as an infinity. -/
structure Canonical (format : Format) (mantissa : Nat) (exponent : Int) : Prop where
  positive : 0 < mantissa
  settled : format.targetExponent (totalExponent mantissa exponent) = exponent
  inRange : exponent + format.exponentBias + format.mantissaBitsWithoutImplicit + 1
    < (2 ^ format.exponentBits : Nat)

theorem minExponent_eq (format : Format) :
    format.minExponent = 1 - format.exponentBias - format.mantissaBitsWithoutImplicit := by
  have bits := Nat.two_pow_pos (format.exponentBits - 1)
  simp only [Format.minExponent, Format.exponentBias, Format.mantissaBits]
  push_cast [Nat.cast_sub bits]
  omega

/-- The least exponent of the format is the least a canonical number can have. -/
theorem Canonical.minExponent_le {mantissa : Nat} {exponent : Int}
    (canonical : Canonical format mantissa exponent) : format.minExponent ≤ exponent := by
  rw [← canonical.settled]
  exact Int.le_max_right _ _

/-- A canonical number fills the mantissa or has the least exponent. -/
theorem Canonical.log2_cases {mantissa : Nat} {exponent : Int}
    (canonical : Canonical format mantissa exponent) :
    mantissa.log2 = format.mantissaBitsWithoutImplicit ∨
      mantissa.log2 < format.mantissaBitsWithoutImplicit ∧ exponent = format.minExponent := by
  have settled := canonical.settled
  simp only [Format.targetExponent, totalExponent, Format.mantissaBits] at settled
  push_cast at settled
  omega

/-- A mantissa whose leading bit is the implicit one is canonical at every exponent
from the least to the greatest. -/
theorem canonical_of_log2_eq {mantissa : Nat} {exponent : Int}
    (positive : 0 < mantissa) (full : mantissa.log2 = format.mantissaBitsWithoutImplicit)
    (above : format.minExponent ≤ exponent)
    (inRange : exponent + format.exponentBias + format.mantissaBitsWithoutImplicit + 1
      < (2 ^ format.exponentBits : Nat)) :
    Canonical format mantissa exponent where
  positive := positive
  settled := by
    simp only [Format.targetExponent, totalExponent, Format.mantissaBits, full]
    push_cast
    omega
  inRange := inRange

/-! ## Rounding what needs none -/

/-- A number with more zero digits has that many digits more. -/
theorem log2_shiftLeft {mantissa : Nat} (positive : 0 < mantissa) (places : Nat) :
    (mantissa <<< places).log2 = mantissa.log2 + places := by
  induction places with
  | zero => rfl
  | succ places inductionHypothesis =>
      have nonzero : mantissa <<< places ≠ 0 := by
        rw [Nat.shiftLeft_eq]
        exact Nat.mul_ne_zero positive.ne' (Nat.two_pow_pos places).ne'
      rw [Nat.shiftLeft_succ, Nat.log2_two_mul nonzero, inductionHypothesis, Nat.add_assoc]

/-- Moving the point to the right keeps the position of the leading digit. -/
theorem totalExponent_shiftLeft {mantissa : Nat} (positive : 0 < mantissa) (exponent : Int)
    (places : Nat) :
    totalExponent (mantissa <<< places) (exponent - places) = totalExponent mantissa exponent := by
  simp only [totalExponent, log2_shiftLeft positive]
  push_cast
  omega

/-- Dropping zero digits loses nothing. -/
theorem shiftRight_shiftLeft (mantissa places : Nat) :
    (ExtendedMantissa.mk (mantissa <<< places) false false >>> places)
      = ⟨mantissa, false, false⟩ := by
  induction places generalizing mantissa with
  | zero => rfl
  | succ places inductionHypothesis =>
      change ExtendedMantissa.shiftRightOne
        (ExtendedMantissa.mk (mantissa <<< (places + 1)) false false >>> places) = _
      rw [Nat.shiftLeft_succ_inside, inductionHypothesis]
      simp [ExtendedMantissa.shiftRightOne]

/-- A canonical number is brought back from any exact rewriting with more digits. -/
theorem shiftToTargetExponent_shiftLeft {mantissa : Nat} {exponent : Int}
    (canonical : Canonical format mantissa exponent) (places : Nat) :
    shiftToTargetExponent format (mantissa <<< places) (exponent - places) .exact
      = (⟨mantissa, false, false⟩, exponent) := by
  have amount : (exponent - (exponent - places)).toNat = places := by omega
  simp only [shiftToTargetExponent, shiftToExponent,
    totalExponent_shiftLeft canonical.positive, canonical.settled, amount,
    ExtendedMantissa.ofMantissaAndAccuracy, shiftRight_shiftLeft]
  simp

theorem roundWithAccuracy_shiftLeft {mantissa : Nat} {exponent : Int}
    (canonical : Canonical format mantissa exponent) (sign : Sign) (places : Nat) :
    roundWithAccuracy format sign (mantissa <<< places) (exponent - places) .exact
      = .finite sign mantissa exponent canonical.positive := by
  have first := shiftToTargetExponent_shiftLeft canonical places
  have second := shiftToTargetExponent_shiftLeft canonical 0
  simp only [Nat.shiftLeft_zero, Nat.cast_zero, Int.sub_zero] at second
  simp only [roundWithAccuracy, first, ExtendedMantissa.roundedMantissa,
    ExtendedMantissa.accuracy, Accuracy.roundToNearestEven, second,
    canonical.positive.ne', dite_false]

/-- Rounding takes away the digits a canonical number has in excess. -/
theorem round_shiftLeft {mantissa : Nat} {exponent : Int}
    (canonical : Canonical format mantissa exponent) (sign : Sign) (places : Nat) :
    UnpackedFloat.round format sign (mantissa <<< places) (exponent - places)
      = .finite sign mantissa exponent canonical.positive := by
  have amount : (exponent - places - exponent).toNat = 0 := by omega
  simp only [UnpackedFloat.round, decreaseExponent, totalExponent_shiftLeft canonical.positive,
    canonical.settled, amount, Nat.shiftLeft_zero, Nat.cast_zero, Int.sub_zero]
  exact roundWithAccuracy_shiftLeft canonical sign places

/-- Rounding gives a number the digits it lacks to be canonical. -/
theorem round_of_shiftLeft {mantissa : Nat} {exponent : Int} (positive : 0 < mantissa)
    {places : Nat} (canonical : Canonical format (mantissa <<< places) (exponent - places))
    (sign : Sign) :
    UnpackedFloat.round format sign mantissa exponent
      = .finite sign (mantissa <<< places) (exponent - places) canonical.positive := by
  have target : format.targetExponent (totalExponent mantissa exponent) = exponent - places := by
    rw [← totalExponent_shiftLeft positive exponent places, canonical.settled]
  have amount : (exponent - (exponent - places)).toNat = places := by omega
  simp only [UnpackedFloat.round, decreaseExponent, target, amount]
  simpa using roundWithAccuracy_shiftLeft canonical sign 0

/-! ## Packing and unpacking -/

/-- All bits of a field are set. -/
theorem eq_top_iff {width : Nat} (field : BitVec width) :
    field = -1#_ ↔ field.toNat = 2 ^ width - 1 := by
  rw [← BitVec.toNat_inj, BitVec.neg_one_eq_allOnes, BitVec.toNat_allOnes]

/-- No bit of a field is set. -/
theorem eq_clear_iff {width : Nat} (field : BitVec width) :
    field = 0#_ ↔ field.toNat = 0 := by
  rw [← BitVec.toNat_inj, BitVec.toNat_zero]

theorem ofBitVec_toBitVec (sign : Sign) : Sign.ofBitVec sign.toBitVec = sign := by
  cases sign <;> rfl

theorem toBitVec_ofBitVec (bit : BitVec 1) : (Sign.ofBitVec bit).toBitVec = bit := by
  revert bit
  decide

theorem unpackSign_packComponents {sign : Sign} {exponent : BitVec format.exponentBits}
    {mantissa : BitVec format.mantissaBitsWithoutImplicit} :
    unpackSign (packComponents format sign exponent mantissa) = sign.toBitVec := by
  apply BitVec.eq_of_getLsbD_eq
  intro place within
  obtain rfl : place = 0 := by omega
  simp only [unpackSign, packComponents, BitVec.getLsbD_cast, BitVec.getLsbD_extractLsb,
    BitVec.getLsbD_append]
  simp

/-- The three fields make up the whole. -/
theorem packComponents_unpack (bits : BitVec format.numBits) :
    packComponents format (Sign.ofBitVec (unpackSign bits)) (unpackExponent bits)
      (unpackMantissa bits) = bits := by
  have mantissaSome := format.hm
  have exponentSome := format.he
  apply BitVec.eq_of_getLsbD_eq
  intro place within
  simp only [packComponents, toBitVec_ofBitVec, BitVec.getLsbD_append, unpackSign,
    unpackExponent, unpackMantissa, BitVec.getLsbD_cast, BitVec.getLsbD_extractLsb]
  rcases Nat.lt_or_ge place format.mantissaBitsWithoutImplicit with low | notLow
  · simp [low]
    omega
  · rcases Nat.lt_or_ge (place - format.mantissaBitsWithoutImplicit) format.exponentBits
      with middle | high
    · have here : format.mantissaBitsWithoutImplicit
          + (place - format.mantissaBitsWithoutImplicit) = place := by omega
      simp [notLow.not_gt, middle, here]
      omega
    · have here : format.mantissaBitsWithoutImplicit + format.exponentBits = place := by
        simp only [Format.numBits] at within
        omega
      have zero : place - format.mantissaBitsWithoutImplicit - format.exponentBits = 0 := by omega
      simp [notLow.not_gt, high.not_gt, here, zero]

theorem toNat_append_implicit (mantissa : BitVec format.mantissaBitsWithoutImplicit) :
    (1#1 ++ mantissa).toNat = 2 ^ format.mantissaBitsWithoutImplicit + mantissa.toNat := by
  rw [BitVec.toNat_append, ← Nat.shiftLeft_add_eq_or_of_lt mantissa.isLt, Nat.shiftLeft_eq]
  simp

/-- The implicit bit leads the mantissa. -/
theorem log2_append_implicit (mantissa : BitVec format.mantissaBitsWithoutImplicit) :
    (1#1 ++ mantissa).toNat.log2 = format.mantissaBitsWithoutImplicit := by
  have small := mantissa.isLt
  rw [toNat_append_implicit, Nat.log2_eq_iff (by omega), Nat.pow_succ]
  omega

/-- What the bits of a number stand for is canonical. -/
theorem canonical_of_unpack (wide : 1 < format.exponentBits) {bits : BitVec format.numBits}
    {sign : Sign} {mantissa : Nat} {exponent : Int} {positive : 0 < mantissa}
    (unpacked : unpack format bits = .finite sign mantissa exponent positive) :
    Canonical format mantissa exponent := by
  have four : 2 ^ 2 ≤ 2 ^ format.exponentBits := Nat.pow_le_pow_right (by decide) wide
  have least := minExponent_eq format
  simp only [unpack] at unpacked
  split at unpacked
  · split at unpacked <;> cases unpacked
  rename_i notTop
  split at unpacked
  · rename_i bottom
    split at unpacked
    · cases unpacked
    -- no implicit bit: the exponent is the least one
    rename_i nonzero
    injection unpacked with _ sameMantissa sameExponent
    subst sameMantissa sameExponent
    have small : (unpackMantissa bits).toNat.log2 < format.mantissaBitsWithoutImplicit :=
      (Nat.log2_lt positive.ne').mpr (unpackMantissa bits).isLt
    have lowest := (eq_clear_iff _).mp bottom
    refine ⟨positive, ?_, by omega⟩
    simp only [Format.targetExponent, totalExponent, Format.mantissaBits]
    push_cast
    omega
  · rename_i notBottom
    injection unpacked with _ sameMantissa sameExponent
    subst sameMantissa sameExponent
    rw [eq_top_iff] at notTop
    rw [eq_clear_iff] at notBottom
    have within := (unpackExponent bits).isLt
    apply canonical_of_log2_eq positive (log2_append_implicit _)
    · omega
    · omega

/-- A canonical number survives being packed. -/
theorem unpack_pack_finite {mantissa : Nat} {exponent : Int}
    (canonical : Canonical format mantissa exponent) (sign : Sign) :
    unpack format (pack format (.finite sign mantissa exponent canonical.positive))
      = .finite sign mantissa exponent canonical.positive := by
  have least := minExponent_eq format
  have above := canonical.minExponent_le
  have inRange := canonical.inRange
  have positive := canonical.positive
  simp only [pack]
  rw [if_neg (by omega)]
  rcases canonical.log2_cases with full | ⟨short, lowest⟩
  · rw [if_pos (by rw [full, Format.mantissaBits, Nat.add_comm])]
    obtain ⟨biased, isBiased⟩ :
        ∃ biased : Nat, (biased : Int)
          = exponent + format.exponentBias + format.mantissaBitsWithoutImplicit :=
      ⟨_, Int.toNat_of_nonneg (by omega)⟩
    have within : biased + 1 < 2 ^ format.exponentBits := by omega
    have field : (BitVec.ofNat format.exponentBits biased).toNat = biased :=
      Nat.mod_eq_of_lt (by omega)
    have notTop : BitVec.ofNat format.exponentBits biased ≠ -1#_ := by
      rw [Ne, eq_top_iff, field]
      omega
    have notBottom : BitVec.ofNat format.exponentBits biased ≠ 0#_ := by
      rw [Ne, eq_clear_iff, field]
      omega
    have bounds := (Nat.log2_eq_iff positive.ne').mp full
    have digits : (1#1 ++ BitVec.ofNat format.mantissaBitsWithoutImplicit mantissa).toNat
        = mantissa := by
      rw [toNat_append_implicit, BitVec.toNat_ofNat]
      rw [Nat.pow_succ] at bounds
      rw [Nat.mod_eq_sub_mod bounds.1, Nat.mod_eq_of_lt (by omega)]
      omega
    rw [← isBiased, Int.toNat_natCast]
    simp only [unpack, unpackExponent_packComponents, unpackMantissa_packComponents,
      unpackSign_packComponents, ofBitVec_toBitVec, notTop, notBottom, if_false, field,
      digits, UnpackedFloat.finite.injEq, true_and]
    omega
  · rw [if_neg (by rw [Format.mantissaBits]; omega)]
    have small : mantissa < 2 ^ format.mantissaBitsWithoutImplicit :=
      (Nat.log2_lt positive.ne').mp short
    have digits : (BitVec.ofNat format.mantissaBitsWithoutImplicit mantissa).toNat = mantissa :=
      Nat.mod_eq_of_lt small
    have some : BitVec.ofNat format.mantissaBitsWithoutImplicit mantissa ≠ 0#_ := by
      rw [Ne, eq_clear_iff, digits]
      omega
    have notTop : BitVec.ofNat format.exponentBits 0 ≠ -1#_ := by
      have two := Nat.one_lt_two_pow format.he.ne'
      rw [Ne, eq_top_iff, BitVec.toNat_zero]
      omega
    simp only [unpack, unpackExponent_packComponents, unpackMantissa_packComponents,
      unpackSign_packComponents, ofBitVec_toBitVec, notTop, if_false, if_true, some,
      dite_false, digits, UnpackedFloat.finite.injEq, true_and, BitVec.toNat_zero]
    omega

/-- Bits with the one pattern for the undefined number are packed as they were. -/
theorem pack_unpack (wide : 1 < format.exponentBits) {bits : BitVec format.numBits}
    (valid : format.Valid bits) : pack format (unpack format bits) = bits := by
  have four : 2 ^ 2 ≤ 2 ^ format.exponentBits := Nat.pow_le_pow_right (by decide) wide
  have fields := packComponents_unpack bits
  simp only [unpack]
  split
  · rename_i top
    rw [top] at fields
    split
    · rename_i clear
      rw [clear] at fields
      exact fields
    · rename_i nonzero
      exact (valid.eq_packedNaN top nonzero).symm
  rename_i notTop
  split
  · rename_i bottom
    have lowest := (eq_clear_iff _).mp bottom
    rw [bottom] at fields
    split
    · rename_i clear
      rw [clear] at fields
      exact fields
    · rename_i nonzero
      rw [eq_clear_iff] at nonzero
      have small : (unpackMantissa bits).toNat.log2 < format.mantissaBitsWithoutImplicit :=
        (Nat.log2_lt nonzero).mpr (unpackMantissa bits).isLt
      simp only [pack]
      rw [if_neg (by omega), if_neg (by rw [Format.mantissaBits]; omega), BitVec.ofNat_toNat,
        BitVec.setWidth_eq]
      exact fields
  · rw [eq_top_iff] at notTop
    have within := (unpackExponent bits).isLt
    have biased : ((unpackExponent bits).toNat - (format.exponentBias
        + format.mantissaBitsWithoutImplicit) + format.exponentBias
        + format.mantissaBitsWithoutImplicit : Int).toNat = (unpackExponent bits).toNat := by
      omega
    have digits : BitVec.ofNat format.mantissaBitsWithoutImplicit
        (1#1 ++ unpackMantissa bits).toNat = unpackMantissa bits := by
      apply BitVec.eq_of_toNat_eq
      rw [BitVec.toNat_ofNat, toNat_append_implicit, Nat.add_mod_left,
        Nat.mod_eq_of_lt (unpackMantissa bits).isLt]
    simp only [pack, biased, digits]
    rw [if_neg (by omega), if_pos (by rw [log2_append_implicit, Format.mantissaBits, Nat.add_comm]),
      BitVec.ofNat_toNat, BitVec.setWidth_eq]
    exact fields

/-! ## From single precision to double and back -/

/-- A number of single precision fits into a double with room to spare. -/
theorem canonical_widened {mantissa : Nat} {exponent : Int}
    (canonical : Canonical .binary32 mantissa exponent) :
    ∃ places : Nat, Canonical .binary64 (mantissa <<< places) (exponent - places) := by
  have above : (-149 : Int) ≤ exponent := canonical.minExponent_le
  have below : exponent + 127 + 23 + 1 < 256 := canonical.inRange
  have digits : mantissa.log2 ≤ 23 := by
    rcases canonical.log2_cases with full | ⟨short, -⟩
    · exact full.le
    · exact short.le
  have full := log2_shiftLeft canonical.positive (52 - mantissa.log2)
  refine ⟨52 - mantissa.log2, canonical_of_log2_eq ?_ ?_ ?_ ?_⟩
  · rw [Nat.shiftLeft_eq]
    exact Nat.mul_pos canonical.positive (Nat.two_pow_pos _)
  · change _ = 52
    omega
  · change (-1074 : Int) ≤ _
    omega
  · change exponent - _ + 1023 + 52 + 1 < 2048
    omega

/-- The double stands for what the number of single precision stands for. -/
theorem unpack_widen (value : Float32) :
    (widen value).toModel.unpack = rounded .binary64 value.toModel.unpack := by
  change unpack .binary64 (pack .binary64 (rounded .binary64 value.toModel.unpack)) = _
  cases number : value.toModel.unpack with
  | infinity sign => cases sign <;> rfl
  | notANumber => rfl
  | zero sign => cases sign <;> rfl
  | finite sign mantissa exponent positive =>
      obtain ⟨places, canonical⟩ :=
        canonical_widened (canonical_of_unpack (by decide) number)
      simp only [rounded, round_of_shiftLeft positive canonical]
      exact unpack_pack_finite canonical sign

/-- Widening loses nothing: rounding back gives the number it was. -/
theorem narrow_widen (value : Float32) : narrow (widen value) = value := by
  have back : rounded .binary32 (widen value).toModel.unpack = value.toModel.unpack := by
    rw [unpack_widen]
    cases number : value.toModel.unpack with
    | finite sign mantissa exponent positive =>
        have canonical := canonical_of_unpack (by decide) number
        obtain ⟨places, widened⟩ := canonical_widened canonical
        simp only [rounded, round_of_shiftLeft positive widened]
        exact round_shiftLeft canonical sign places
    | _ => rfl
  have packed := pack_unpack (by decide) value.toModel.valid
  obtain ⟨⟨bits, valid⟩⟩ := value
  simp only [narrow, back, Float32.Model.pack]
  congr 2
  exact congrArg UInt32.ofBitVec packed

/-- The double of an infinite number is infinite. -/
theorem isInf_eq_false_of_isFinite_widen {value : Float32}
    (finite : (widen value).isFinite = true) : value.isInf = false := by
  change (widen value).toModel.unpack.isFinite = true at finite
  change value.toModel.unpack.isInf = false
  rw [unpack_widen] at finite
  cases number : value.toModel.unpack with
  | infinity sign => simp [number, rounded, isFinite] at finite
  | _ => rfl

end Precision

end HostCall
