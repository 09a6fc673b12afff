import Mathlib
import MarkupTree.Decimal.Integer
import MarkupTree.Proofs.Values.Equality

/-!
Numbers that are written as integers. An integer of at most 53 bits is a number without rounding, and
two words that hold the same normal number are the same: so an integer that a number is written as
is read back as this number, but for the sign of a zero.
-/

namespace MarkupTree.Number

open Float.Model (Format UnpackedFloat)
open Float.Model.UnpackedFloat

/-- The numbers that use all 53 bits of a mantissa. -/
structure Normal (mantissa : Nat) (exponent : Int) : Prop where
  large : 2 ^ 52 ≤ mantissa
  small : mantissa < 2 ^ 53
  least : -1074 ≤ exponent
  greatest : exponent ≤ 971

variable {sign : Sign} {mantissa : Nat} {exponent : Int} {positive : 0 < mantissa}

theorem log2_mul_two_pow (mantissa zeros : Nat) (positive : 0 < mantissa) :
    (mantissa * 2 ^ zeros).log2 = mantissa.log2 + zeros := by
  rw [Nat.log2_eq_iff (by positivity), pow_add, pow_add, pow_add]
  have low := Nat.log2_self_le positive.ne'
  have high := Nat.lt_log2_self (n := mantissa)
  rw [pow_add] at high
  constructor
  · exact Nat.mul_le_mul_right _ low
  · nlinarith [Nat.two_pow_pos zeros]

theorem Normal.log2 (normal : Normal mantissa exponent) : mantissa.log2 = 52 :=
  (Nat.log2_eq_iff (by have := normal.large; omega)).mpr ⟨normal.large, normal.small⟩

theorem toNat_one_append (bits : BitVec 52) : (1#1 ++ bits).toNat = 2 ^ 52 + bits.toNat := by
  rw [BitVec.toNat_append, ← Nat.shiftLeft_add_eq_or_of_lt bits.isLt]
  simp [Nat.shiftLeft_eq]

theorem packComponents_unpacked (word : BitVec Format.binary64.numBits) :
    packComponents .binary64 (Sign.ofBitVec (unpackSign word)) (unpackExponent word)
      (unpackMantissa word) = word := by
  have split (bit : BitVec 1) : (Sign.ofBitVec bit).toBitVec = bit := by
    revert bit
    decide
  simp only [packComponents, split, unpackSign, unpackExponent, unpackMantissa, BitVec.extractLsb]
  ext i inside
  grind

theorem unpackSign_packed (sign : Sign) (exponent : BitVec 11) (mantissa : BitVec 52) :
    Sign.ofBitVec (unpackSign (packComponents .binary64 sign exponent mantissa)) = sign := by
  simp only [unpackSign, packComponents, BitVec.extractLsb]
  rw [BitVec.extractLsb'_append_eq_of_le (by omega), BitVec.extractLsb'_append_eq_of_le (by omega)]
  cases sign <;> rfl

theorem unpack_eq_iff_of_normal (normal : Normal mantissa exponent)
    (word : BitVec Format.binary64.numBits) :
    unpack .binary64 word = .finite sign mantissa exponent positive ↔
      word = packComponents .binary64 sign (BitVec.ofNat 11 (exponent + 1075).toNat)
        (BitVec.ofNat 52 mantissa) := by
  obtain ⟨large, small, least, greatest⟩ := normal
  have bias : (Format.binary64.exponentBias : Int) = 1023 := rfl
  have width : (Format.binary64.mantissaBitsWithoutImplicit : Int) = 52 := rfl
  constructor
  · intro unpacked
    have implicit := toNat_one_append (unpackMantissa word)
    have inside : (unpackMantissa word).toNat < 2 ^ 52 := (unpackMantissa word).isLt
    rw [unpack] at unpacked
    split at unpacked
    · split at unpacked <;> cases unpacked
    · split at unpacked
      · split at unpacked
        · cases unpacked
        · -- A mantissa without the implicit bit is too small.
          injection unpacked with _ same
          omega
      · injection unpacked with signs mantissas exponents
        rw [bias, width] at exponents
        rw [← packComponents_unpacked word, signs]
        congr 1
        · refine BitVec.eq_of_toNat_eq ?_
          have bound : (unpackExponent word).toNat < 2 ^ 11 := (unpackExponent word).isLt
          rw [BitVec.toNat_ofNat]
          change _ = (exponent + 1075).toNat % 2 ^ 11
          omega
        · refine BitVec.eq_of_toNat_eq ?_
          rw [BitVec.toNat_ofNat]
          change _ = mantissa % 2 ^ 52
          omega
  · rintro rfl
    have exponents : (BitVec.ofNat 11 (exponent + 1075).toNat).toNat = (exponent + 1075).toNat := by
      rw [BitVec.toNat_ofNat]
      omega
    have mantissas : (1#1 ++ BitVec.ofNat 52 mantissa).toNat = mantissa := by
      rw [toNat_one_append, BitVec.toNat_ofNat]
      omega
    rw [unpack]
    simp only [unpackMantissa_packComponents, unpackExponent_packComponents, unpackSign_packed]
    rw [if_neg, if_neg]
    · simp only [mantissas, exponents, bias, width]
      congr 1
      omega
    · intro same
      rw [same] at exponents
      have zero : (0#11).toNat = 0 := rfl
      omega
    · intro same
      rw [same] at exponents
      have greatest : (-1#11).toNat = 2047 := rfl
      omega

theorem pack_of_normal (normal : Normal mantissa exponent) :
    pack .binary64 (.finite sign mantissa exponent positive) =
      packComponents .binary64 sign (BitVec.ofNat 11 (exponent + 1075).toNat)
        (BitVec.ofNat 52 mantissa) := by
  have biased : (exponent + Format.binary64.exponentBias +
      Format.binary64.mantissaBitsWithoutImplicit).toNat = (exponent + 1075).toNat := by
    have bias : (Format.binary64.exponentBias : Int) = 1023 := rfl
    have width : (Format.binary64.mantissaBitsWithoutImplicit : Int) = 52 := rfl
    rw [bias, width]
    omega
  have fits : ¬ 2 ^ 11 ≤ (exponent + 1075).toNat + 1 := by
    have := normal.least
    have := normal.greatest
    omega
  rw [pack]
  simp only [biased, normal.log2]
  rw [if_neg fits]
  exact if_pos rfl

theorem unpack_pack_of_normal (normal : Normal mantissa exponent) :
    (Float.Model.pack (.finite sign mantissa exponent positive)).unpack =
      .finite sign mantissa exponent positive := by
  change unpack .binary64 (pack .binary64 _) = _
  rw [unpack_eq_iff_of_normal normal, pack_of_normal normal]

theorem pack_unpack_of_normal (normal : Normal mantissa exponent) {n : Float.Model}
    (unpacked : n.unpack = .finite sign mantissa exponent positive) :
    Float.Model.pack (.finite sign mantissa exponent positive) = n := by
  obtain ⟨bits, valid⟩ := n
  have word := (unpack_eq_iff_of_normal normal bits.toBitVec).mp unpacked
  simp only [Float.Model.pack, pack_of_normal normal, ← word]

theorem normal_or_small {word : BitVec Format.binary64.numBits}
    (same : unpack .binary64 word = .finite sign mantissa exponent positive) :
    Normal mantissa exponent ∨ mantissa < 2 ^ 52 ∧ exponent = -1074 := by
  have bias : (Format.binary64.exponentBias : Int) = 1023 := rfl
  have width : (Format.binary64.mantissaBitsWithoutImplicit : Int) = 52 := rfl
  have inside : (unpackMantissa word).toNat < 2 ^ 52 := (unpackMantissa word).isLt
  have bound : (unpackExponent word).toNat < 2 ^ 11 := (unpackExponent word).isLt
  rw [unpack] at same
  split at same
  · split at same <;> cases same
  · rename_i below
    split at same
    · rename_i least
      split at same
      · cases same
      · injection same with _ mantissas exponents
        have zero : (unpackExponent word).toNat = 0 := by rw [least]; rfl
        rw [bias, width] at exponents
        exact .inr ⟨by omega, by omega⟩
    · rename_i more
      injection same with _ mantissas exponents
      have implicit := toNat_one_append (unpackMantissa word)
      have greatest : (unpackExponent word).toNat ≠ 2047 :=
        fun all => below (BitVec.eq_of_toNat_eq all)
      have least : (unpackExponent word).toNat ≠ 0 :=
        fun none => more (BitVec.eq_of_toNat_eq none)
      rw [bias, width] at exponents
      exact .inl ⟨by omega, by omega, by omega, by omega⟩

/-! Rounding leaves a normal mantissa alone, also one with zeros behind it. -/

theorem shifted (mantissa zeros : Nat) :
    Nat.repeat ExtendedMantissa.shiftRightOne zeros ⟨mantissa * 2 ^ zeros, false, false⟩ =
      ⟨mantissa, false, false⟩ := by
  induction zeros generalizing mantissa with
  | zero => simp [Nat.repeat]
  | succ zeros ih =>
      have twice : mantissa * 2 ^ (zeros + 1) = mantissa * 2 * 2 ^ zeros := by ring
      rw [Nat.repeat, twice, ih]
      simp [ExtendedMantissa.shiftRightOne]

theorem shiftToTargetExponent_of_normal (normal : Normal mantissa exponent) (zeros : Nat) :
    shiftToTargetExponent .binary64 (mantissa * 2 ^ zeros) (exponent - zeros) .exact =
      (⟨mantissa, false, false⟩, exponent) := by
  have large := normal.large
  have least := normal.least
  have log2 : (mantissa * 2 ^ zeros).log2 = 52 + zeros := by
    rw [log2_mul_two_pow _ _ (by omega), normal.log2]
  have target : Format.binary64.targetExponent
      (Float.Model.totalExponent (mantissa * 2 ^ zeros) (exponent - zeros)) = exponent := by
    simp only [Format.targetExponent, Float.Model.totalExponent, log2, Format.mantissaBits,
      Format.minExponent]
    omega
  have shift : (exponent - (exponent - zeros)).toNat = zeros := by omega
  rw [shiftToTargetExponent, target, shiftToExponent, shift]
  exact Prod.ext (shifted mantissa zeros) (by simp)

theorem roundWithAccuracy_of_normal (normal : Normal mantissa exponent) (zeros : Nat) :
    roundWithAccuracy .binary64 sign (mantissa * 2 ^ zeros) (exponent - zeros) .exact =
      .finite sign mantissa exponent positive := by
  have again := shiftToTargetExponent_of_normal normal 0
  rw [Nat.pow_zero, Nat.mul_one, Int.ofNat_zero, Int.sub_zero] at again
  simp only [roundWithAccuracy, shiftToTargetExponent_of_normal normal zeros]
  change dite _ _ _ = _
  simp only [ExtendedMantissa.roundedMantissa, ExtendedMantissa.accuracy,
    Accuracy.roundToNearestEven, again]
  rw [dif_neg positive.ne']

/-! An integer is a normal number once enough zeros stand behind it. -/

variable {whole zeros : Nat}

theorem round_of_normal (normal : Normal (whole * 2 ^ zeros) (-zeros))
    (positive : 0 < whole * 2 ^ zeros) :
    round .binary64 sign whole 0 = .finite sign (whole * 2 ^ zeros) (-zeros) positive := by
  have given : 0 < whole := Nat.pos_of_mul_pos_right positive
  have digits := normal.log2
  rw [log2_mul_two_pow _ _ given] at digits
  have target : Format.binary64.targetExponent (Float.Model.totalExponent whole 0) = -zeros := by
    simp only [Format.targetExponent, Float.Model.totalExponent, Format.mantissaBits,
      Format.minExponent]
    omega
  have shift : (- -(zeros : Int)).toNat = zeros := by omega
  have exact : _ = finite sign _ _ positive := roundWithAccuracy_of_normal normal 0
  rw [Nat.pow_zero, Nat.mul_one, Int.ofNat_zero, Int.sub_zero] at exact
  rw [UnpackedFloat.round, target]
  simp only [decreaseExponent, Int.zero_sub, shift, Nat.shiftLeft_eq, exact]

theorem toModel_ofNat (normal : Normal (whole * 2 ^ zeros) (-zeros))
    (positive : 0 < whole * 2 ^ zeros) (small : whole < 2 ^ 53) :
    (Float.ofNat whole).toModel =
      .pack (.finite .positive (whole * 2 ^ zeros) (-zeros) positive) := by
  have given : 0 < whole := Nat.pos_of_mul_pos_right positive
  have word : (UInt64.ofNat whole).toNat = whole := by
    rw [UInt64.toNat_ofNat']
    omega
  have integer : Float.Model.ofUInt64 (UInt64.ofNat whole) =
      .pack (.finite .positive (whole * 2 ^ zeros) (-zeros) positive) := by
    rw [Float.Model.ofUInt64, ofUInt64, ofNat, ofInt, UnpackedFloat.normalize, word,
      Int.compare_eq_gt.mpr (by omega)]
    simp only [Int.toNat_natCast, round_of_normal normal positive]
  have one : (Float.ofBits 0x3FF0000000000000).toModel.unpack =
      .finite .positive (2 ^ 52) (-52) (by decide) := by rfl
  -- Numbers of this size are read as an integer times one.
  have product : Float.ofNat whole =
      (UInt64.ofNat whole).toFloat * Float.ofBits 0x3FF0000000000000 := dif_pos ⟨small, by decide⟩
  have model : (Float.ofNat whole).toModel = .pack (mul .binary64
      (Float.Model.ofUInt64 (UInt64.ofNat whole)).unpack
      (Float.ofBits 0x3FF0000000000000).toModel.unpack) := congrArg Float.toModel product
  rw [model, integer, unpack_pack_of_normal normal, one, mul]
  exact congrArg _ (roundWithAccuracy_of_normal normal 52)

theorem toModel_ofInt (normal : Normal (whole * 2 ^ zeros) (-zeros))
    (positive : 0 < whole * 2 ^ zeros) (small : whole < 2 ^ 53) :
    (Float.ofInt (sign.apply whole)).toModel =
      .pack (.finite sign (whole * 2 ^ zeros) (-zeros) positive) := by
  have natural := toModel_ofNat normal positive small
  cases sign with
  | positive => exact natural
  | negative =>
      obtain ⟨before, rfl⟩ := Nat.exists_eq_succ_of_ne_zero (Nat.pos_of_mul_pos_right positive).ne'
      change Float.Model.pack (Float.ofNat (before + 1)).toModel.unpack.neg = _
      rw [natural, unpack_pack_of_normal normal]
      rfl

theorem normal_of_whole {word : BitVec Format.binary64.numBits}
    (unpacked : unpack .binary64 word = .finite sign mantissa exponent positive)
    (small : whole < 2 ^ 52)
    (value : mantissa * 2 ^ exponent.toNat = whole * 2 ^ (-exponent).toNat) :
    ∃ zeros : Nat, Normal mantissa exponent ∧ exponent = -zeros ∧ mantissa = whole * 2 ^ zeros := by
  have given : 0 < whole := by
    have product := Nat.mul_pos positive (Nat.two_pow_pos exponent.toNat)
    rw [value] at product
    exact Nat.pos_of_mul_pos_right product
  rcases normal_or_small unpacked with normal | ⟨fraction, least⟩
  · have large := normal.large
    rcases Int.le_total 0 exponent with integral | negative
    · have none : (-exponent).toNat = 0 := by omega
      rw [none, Nat.pow_zero, Nat.mul_one] at value
      have := Nat.mul_le_mul_left mantissa (Nat.one_le_two_pow (n := exponent.toNat))
      omega
    · have none : exponent.toNat = 0 := by omega
      rw [none, Nat.pow_zero, Nat.mul_one] at value
      exact ⟨(-exponent).toNat, normal, by omega, value⟩
  · -- A number of the least exponent is a fraction.
    have none : exponent.toNat = 0 := by omega
    have much : 2 ^ 52 ≤ 2 ^ (-exponent).toNat := Nat.pow_le_pow_right (by decide) (by omega)
    have := Nat.mul_le_mul_right (2 ^ (-exponent).toNat) given
    rw [none, Nat.pow_zero, Nat.mul_one] at value
    omega

end MarkupTree.Number

namespace MarkupTree.Decimal

open Number

def unsigned (n : Float) : Float := if n == 0 then 0 else n

theorem ofInt_integer? {n : Float} {k : Int} (found : integer? n = some k) :
    Float.ofInt k = unsigned n := by
  have zero : (0 : Float).toModel.unpack = .zero .positive := by rfl
  unfold integer? at found
  split at found
  · cases found
  · cases found
  · rename_i sign unpacked
    cases found
    have none : (n == 0) = true := beq_iff.mpr (.inl ⟨sign, .positive, unpacked, zero⟩)
    rw [unsigned, if_pos none]
    rfl
  · rename_i sign mantissa exponent positive unpacked
    simp only at found
    split at found
    · rename_i whole
      cases found
      have some : ¬ (n == 0) = true := by
        rw [beq_iff, unpacked, zero]
        simp
      obtain ⟨divides, below⟩ := whole
      have limit : integerLimit < 2 ^ 52 := by decide
      have value := (Nat.div_mul_cancel (Nat.dvd_of_mod_eq_zero divides)).symm
      generalize mantissa * Nat.pow 2 exponent.toNat / Nat.pow 2 (-exponent).toNat = whole
        at below value ⊢
      obtain ⟨zeros, normal, rfl, rfl⟩ := normal_of_whole unpacked (below.trans limit) value
      have model : (Float.ofInt (sign.apply whole)).toModel = _ :=
        toModel_ofInt normal positive (below.trans (by decide))
      rw [pack_unpack_of_normal normal unpacked] at model
      rw [unsigned, if_neg some]
      exact congrArg Float.ofModel model
    · cases found

theorem unsigned_of_integer?_eq_none {n : Float} (fraction : integer? n = none) :
    unsigned n = n := by
  refine if_neg fun none => ?_
  rcases beq_iff.mp none with ⟨sign, _, zero, _⟩ | ⟨same, _⟩
  · rw [integer?, zero] at fraction
    cases fraction
  · have zero : (0 : Float).toModel.unpack = .zero .positive := by rfl
    rw [integer?, same, zero] at fraction
    cases fraction

theorem unsigned_beq {n : Float} (finite : n.isFinite = true) : (unsigned n == n) = true := by
  rw [unsigned]
  split
  · rename_i none
    exact beq_symm none
  · refine beq_self (Bool.eq_false_iff.mpr fun absent => ?_)
    have given : n.toModel.unpack.isFinite = true := finite
    have missing : n.toModel.unpack.isNaN = true := absent
    cases unpacked : n.toModel.unpack with
    | notANumber =>
        rw [unpacked] at given
        cases given
    | _ =>
        rw [unpacked] at missing
        cases missing

end MarkupTree.Decimal
