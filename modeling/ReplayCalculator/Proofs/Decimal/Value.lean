import Mathlib.Data.Rat.Floor
import ReplayCalculator.Proofs.Decimal.Datum
import ReplayCalculator.Proofs.Decimal.Nearest

/-!
# The exact value of a binary64 number

The logical model of floating-point numbers takes the bits of a number apart into a sign, a mantissa
and an exponent, and the value of a finite number is the mantissa times a power of two. The ranks
and units that numbers are written with say the same: a finite number is as many units away from
zero as its rank counts (`value_eq`), and its sign is that of its bits (`value_neg_iff`).
-/

namespace ReplayCalculator.Binary64

open Float.Model Float.Model.UnpackedFloat

/-- The exact value of a finite number: mantissa times a power of two. Where there is none, it is
zero. -/
def value (v : Float) : ℚ :=
  match v.toModel.unpack with
  | .finite .positive m e _ => m * 2 ^ e
  | .finite .negative m e _ => -(m * 2 ^ e)
  | _ => 0

/-! ### Fields of the bits -/

section Fields

variable (b : BitVec Format.binary64.numBits)

/-- The mantissa is what is left of the bits by binades. -/
lemma toNat_unpackMantissa : (unpackMantissa b).toNat = b.toNat % binade := by
  have hwidth : binade = 2 ^ (Format.binary64.mantissaBitsWithoutImplicit - 1 - 0 + 1) := rfl
  rw [unpackMantissa, BitVec.toNat_cast, BitVec.extractLsb_toNat, Nat.shiftRight_zero, hwidth]

/-- The exponent counts the binades, up to the sign. -/
lemma toNat_unpackExponent : (unpackExponent b).toNat = b.toNat / binade % 2048 := by
  have hwidth : binade = 2 ^ Format.binary64.mantissaBitsWithoutImplicit := rfl
  rw [unpackExponent, BitVec.toNat_cast, BitVec.extractLsb_toNat,
    Nat.shiftRight_eq_div_pow, ← hwidth]
  rfl

/-- The sign is the highest bit. -/
lemma toNat_unpackSign : (unpackSign b).toNat = b.toNat / signBit % 2 := by
  have hfield : (unpackSign b).toNat = (b.extractLsb 63 63).toNat := rfl
  rw [hfield, BitVec.extractLsb_toNat, Nat.shiftRight_eq_div_pow]
  rfl

end Fields

variable {v : Float}

/-- The bits of a number, with the width that their fields are taken from. -/
def bits (v : Float) : BitVec Format.binary64.numBits := v.toBits.toBitVec

/-- The sign of a number in the logical model. -/
def sign (v : Float) : Sign := if isNegative v then .negative else .positive

/-- The bits are a sign and a rank. -/
lemma toNat_bits (v : Float) :
    rank v < signBit ∧ (bits v).toNat = (if isNegative v then signBit else 0) + rank v := by
  have hlt := v.toBits.toNat_lt
  have hbits : (bits v).toNat = v.toBits.toNat := rfl
  have hsign : signBit = 9223372036854775808 := rfl
  rw [hbits, rank, isNegative, hsign]
  refine ⟨Nat.mod_lt _ (by decide), ?_⟩
  by_cases h : 9223372036854775808 ≤ v.toBits.toNat
  · rw [if_pos (decide_eq_true h)]
    omega
  · rw [if_neg (by simpa using h)]
    omega

/-- The mantissa of a number by its rank. -/
lemma toNat_unpackMantissa_bits (v : Float) :
    (unpackMantissa (bits v)).toNat = rank v % binade := by
  obtain ⟨-, hbits⟩ := toNat_bits v
  have hsign : signBit = binade * 2048 := rfl
  rw [toNat_unpackMantissa, hbits, hsign]
  split
  · exact Nat.mul_add_mod _ _ _
  · rw [Nat.zero_add]

/-- The exponent of a number by its rank. -/
lemma toNat_unpackExponent_bits (v : Float) :
    (unpackExponent (bits v)).toNat = rank v / binade := by
  obtain ⟨hrank, hbits⟩ := toNat_bits v
  have hsign : signBit = 9223372036854775808 := rfl
  have hbinade : binade = 4503599627370496 := rfl
  rw [hsign] at hrank
  rw [toNat_unpackExponent, hbits, hsign, hbinade]
  split
  · omega
  · omega

/-- The sign of a number by its bits. -/
lemma ofBitVec_unpackSign_bits (v : Float) : Sign.ofBitVec (unpackSign (bits v)) = sign v := by
  obtain ⟨hrank, hbits⟩ := toNat_bits v
  have hnat := toNat_unpackSign (bits v)
  rw [hbits] at hnat
  rw [Sign.ofBitVec, sign]
  by_cases h : isNegative v = true
  · rw [if_pos h, Nat.add_div_left _ (by decide), Nat.div_eq_of_lt hrank] at hnat
    rw [if_pos h, if_neg]
    intro hzero
    rw [hzero] at hnat
    cases hnat
  · rw [if_neg h, Nat.zero_add, Nat.div_eq_of_lt hrank] at hnat
    rw [if_neg h, if_pos (BitVec.eq_of_toNat_eq hnat)]

/-- All bits of the exponent are set from infinity on. -/
lemma unpackExponent_bits_eq_ones : unpackExponent (bits v) = -1#11 ↔ infinityRank ≤ rank v := by
  obtain ⟨hrank, -⟩ := toNat_bits v
  have hones : (-1#11).toNat = 2047 := rfl
  have hsign : signBit = 2048 * binade := rfl
  rw [← BitVec.toNat_inj, toNat_unpackExponent_bits, hones, infinityRank]
  rw [hsign] at hrank
  constructor
  · intro h
    rw [← h]
    exact Nat.div_mul_le_self _ _
  · intro h
    refine Nat.le_antisymm ?_ ((Nat.le_div_iff_mul_le (by decide)).mpr h)
    exact Nat.le_of_lt_succ (Nat.div_lt_of_lt_mul (by rwa [Nat.mul_comm]))

/-- No bit of the exponent is set in the first binade. -/
lemma unpackExponent_bits_eq_zero : unpackExponent (bits v) = 0#11 ↔ rank v < binade := by
  have hnone : (0#11).toNat = 0 := rfl
  rw [← BitVec.toNat_inj, toNat_unpackExponent_bits, hnone, Nat.div_eq_zero_iff]
  exact or_iff_right (by decide)

/-! ### Taking a number apart -/

/-- What the logical model makes of the bits. -/
lemma unpack_eq (v : Float) :
    v.toModel.unpack = ofFields (sign v) (unpackExponent (bits v)) (unpackMantissa (bits v)) :=
  unpack_eq_ofFields (ofBitVec_unpackSign_bits v) rfl rfl

/-- The finite numbers are those before infinity. -/
lemma isFinite_iff : v.isFinite = true ↔ rank v < infinityRank := by
  have hfinite : v.isFinite = v.toModel.unpack.isFinite := rfl
  rw [hfinite, unpack_eq, ← Nat.not_le, ← unpackExponent_bits_eq_ones]
  by_cases htop : unpackExponent (bits v) = -1#11
  · rw [ofFields, if_pos htop]
    refine iff_of_false ?_ (not_not_intro htop)
    split <;> exact Bool.false_ne_true
  · exact iff_of_true (isFinite_ofFields _ _ htop).1 htop

/-- The numbers up to infinity are numbers. -/
lemma isNaN_eq_false (h : rank v ≤ infinityRank) : v.isNaN = false := by
  have hnan : v.isNaN = v.toModel.unpack.isNaN := rfl
  rw [hnan, unpack_eq]
  by_cases htop : unpackExponent (bits v) = -1#11
  · have hrank : rank v = infinityRank := h.antisymm (unpackExponent_bits_eq_ones.mp htop)
    have hmantissa : unpackMantissa (bits v) = 0#52 := by
      apply BitVec.eq_of_toNat_eq
      rw [toNat_unpackMantissa_bits, hrank, infinityRank, Nat.mul_mod_left]
      rfl
    rw [ofFields, if_pos htop, if_pos hmantissa]
    rfl
  · exact (isFinite_ofFields _ _ htop).2

/-- A number of rank zero is a zero. -/
lemma unpack_of_rank_eq_zero (h : rank v = 0) : v.toModel.unpack = .zero (sign v) := by
  have hmantissa : unpackMantissa (bits v) = 0#52 := by
    apply BitVec.eq_of_toNat_eq
    rw [toNat_unpackMantissa_bits, h]
    rfl
  have hzero : unpackExponent (bits v) = 0#11 := unpackExponent_bits_eq_zero.mpr (by rw [h]; decide)
  have htop : unpackExponent (bits v) ≠ -1#11 := by
    rw [hzero]
    decide
  rw [unpack_eq, ofFields, if_neg htop, if_pos hzero, dif_pos hmantissa]

/-- A number of the first binade has its rank for a mantissa. -/
lemma unpack_of_lt_binade (hpos : 0 < rank v) (h : rank v < binade) :
    ∃ hm, v.toModel.unpack = .finite (sign v) (rank v) (-1074) hm := by
  have hmantissa : (unpackMantissa (bits v)).toNat = rank v := by
    rw [toNat_unpackMantissa_bits, Nat.mod_eq_of_lt h]
  have hne : unpackMantissa (bits v) ≠ 0#52 := by
    intro hzero
    rw [hzero] at hmantissa
    exact Nat.ne_of_gt hpos hmantissa.symm
  have hzero : unpackExponent (bits v) = 0#11 := unpackExponent_bits_eq_zero.mpr h
  have htop : unpackExponent (bits v) ≠ -1#11 := by
    rw [hzero]
    decide
  refine ⟨hpos, ?_⟩
  rw [unpack_eq, ofFields, if_neg htop, if_pos hzero, dif_neg hne, UnpackedFloat.finite.injEq,
    hzero]
  exact ⟨rfl, hmantissa, rfl⟩

/-- A number of a later binade has a mantissa with a leading one. -/
lemma unpack_of_binade_le (h : binade ≤ rank v) (hfinite : rank v < infinityRank) :
    ∃ hm, v.toModel.unpack =
      .finite (sign v) (binade + rank v % binade) ((rank v / binade : ℕ) - 1075) hm := by
  have hmantissa : (1#1 ++ unpackMantissa (bits v)).toNat = binade + rank v % binade := by
    rw [← toNat_unpackMantissa_bits]
    exact toNat_one_append _
  have hzero : unpackExponent (bits v) ≠ 0#11 :=
    mt unpackExponent_bits_eq_zero.mp (Nat.not_lt.mpr h)
  have htop : unpackExponent (bits v) ≠ -1#11 :=
    mt unpackExponent_bits_eq_ones.mp (Nat.not_le.mpr hfinite)
  have hpos : 0 < binade + rank v % binade := Nat.add_pos_left (by decide) _
  refine ⟨hpos, ?_⟩
  rw [unpack_eq, ofFields, if_neg htop, if_neg hzero, UnpackedFloat.finite.injEq,
    toNat_unpackExponent_bits]
  exact ⟨rfl, hmantissa, rfl⟩

/-! ### The value -/

/-- The value of a number that is taken apart. -/
lemma value_of_unpack {m : ℕ} {e : ℤ} {hm : 0 < m}
    (h : v.toModel.unpack = .finite (sign v) m e hm) :
    value v = (if isNegative v then -1 else 1) * ((m : ℚ) * 2 ^ e) := by
  rw [value, h, sign]
  by_cases hsign : isNegative v = true
  · rw [if_pos hsign, if_pos hsign]
    exact (neg_one_mul _).symm
  · rw [if_neg hsign, if_neg hsign]
    exact (one_mul _).symm

/-- The number one has `2 ^ 1074` units. The exponent is irreducible so that the power is not
computed. -/
@[irreducible]
def oneExponent : ℕ := 1074

/-- The number one has so many units. -/
lemma unitsPerOne_eq_two_pow : unitsPerOne = 2 ^ oneExponent := by
  have hunits : unitsPerOne = 1 <<< oneExponent := by
    unfold oneExponent
    rfl
  rw [hunits, Nat.shiftLeft_eq, Nat.one_mul]

/-- A mantissa times a power of two, which is counted from a single unit on. -/
lemma mul_zpow_eq_div (m k : ℕ) {e : ℤ} (he : e = (k : ℤ) - 1074) :
    (m : ℚ) * 2 ^ e = (m <<< k : ℕ) / unitsPerOne := by
  have hexp : e = (k : ℤ) - oneExponent := by
    unfold oneExponent
    exact he
  rw [hexp, unitsPerOne_eq_two_pow, Nat.shiftLeft_eq, zpow_sub₀ two_ne_zero, zpow_natCast,
    zpow_natCast, Nat.cast_mul, Nat.cast_pow, Nat.cast_pow, Nat.cast_ofNat, mul_div_assoc]

/-- A finite number is its units, with its sign. -/
theorem value_eq (hv : v.isFinite = true) :
    value v = (if isNegative v then -1 else 1) * (units (rank v) / unitsPerOne) := by
  have hfinite := isFinite_iff.mp hv
  rcases Nat.eq_zero_or_pos (rank v) with hzero | hpos
  · have hunpack := unpack_of_rank_eq_zero hzero
    rw [value, hunpack, hzero, units_zero, Nat.cast_zero, zero_div, mul_zero]
  · rcases Nat.lt_or_ge (rank v) binade with hsmall | hlarge
    · obtain ⟨hm, hunpack⟩ := unpack_of_lt_binade hpos hsmall
      have hunits : rank v <<< 0 = units (rank v) := (units_of_lt hsmall).symm
      have hexp : (-1074 : ℤ) = ((0 : ℕ) : ℤ) - 1074 := rfl
      rw [value_of_unpack hunpack, mul_zpow_eq_div _ 0 hexp, hunits]
    · obtain ⟨hm, hunpack⟩ := unpack_of_binade_le hlarge hfinite
      have hdiv : 1 ≤ rank v / binade := (Nat.one_le_div_iff (by decide)).mpr hlarge
      have hexp : ((rank v / binade : ℕ) : ℤ) - 1075 = ((rank v / binade - 1 : ℕ) : ℤ) - 1074 := by
        omega
      rw [value_of_unpack hunpack, mul_zpow_eq_div _ _ hexp, units_of_le hlarge]

/-- The magnitude of a finite number is its units. -/
lemma abs_value (hv : v.isFinite = true) : |value v| = (units (rank v) : ℚ) / unitsPerOne := by
  have hnonneg : (0 : ℚ) ≤ units (rank v) / unitsPerOne :=
    div_nonneg (Nat.cast_nonneg _) (Nat.cast_nonneg _)
  rw [value_eq hv, abs_mul, abs_of_nonneg hnonneg]
  split
  · rw [abs_neg, abs_one, one_mul]
  · rw [abs_one, one_mul]

/-- A number other than zero has units. -/
lemma units_pos {r : ℕ} (hr : 0 < r) : 0 < units r := by
  rcases Nat.lt_or_ge r binade with hsmall | hlarge
  · rwa [units_of_lt hsmall]
  · rw [units_of_le hlarge, Nat.shiftLeft_eq]
    exact Nat.mul_pos (Nat.add_pos_left (by decide) _) (Nat.two_pow_pos _)

/-- The number one has units. -/
lemma unitsPerOne_cast_pos : (0 : ℚ) < unitsPerOne := Nat.cast_pos.mpr Decimal.unitsPerOne_pos

/-- The negative numbers are those with a sign, except zero. -/
theorem value_neg_iff (hv : v.isFinite = true) :
    value v < 0 ↔ isNegative v = true ∧ rank v ≠ 0 := by
  rw [value_eq hv]
  by_cases hsign : isNegative v = true
  · rw [if_pos hsign, neg_one_mul, neg_lt_zero, div_pos_iff_of_pos_right unitsPerOne_cast_pos,
      Nat.cast_pos, and_iff_right hsign]
    constructor
    · intro hpos hzero
      rw [hzero, units_zero] at hpos
      exact Nat.lt_irrefl 0 hpos
    · intro hne
      exact units_pos (Nat.pos_of_ne_zero hne)
  · rw [if_neg hsign, one_mul]
    exact iff_of_false (not_lt.mpr (div_nonneg (Nat.cast_nonneg _) unitsPerOne_cast_pos.le))
      fun h => hsign h.1

end ReplayCalculator.Binary64
