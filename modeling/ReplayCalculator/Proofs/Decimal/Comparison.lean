import ReplayCalculator.Proofs.Decimal.Value

/-!
# Comparisons with zero

The operations compare their operands with zero, and ask whether they are infinite. What the
comparisons say is put here in terms of what a number is: a zero has no rank, whichever sign it has
(`beq_zero_iff`), what lies below zero is negative infinity or has a value below zero
(`lt_zero_iff`), and what is not a number is neither zero nor below it (`of_datum_eq_notANumber`).
-/

namespace ReplayCalculator.Binary64

open Float.Model Float.Model.UnpackedFloat

variable {v : Float}

/-! ### Kinds of numbers -/

/-- Zero of either sign. -/
def IsZero (v : Float) : Prop := ∃ negative, datum v = .finite negative 0

/-- Infinity of either sign. -/
def IsInfinite (v : Float) : Prop := ∃ negative, datum v = .infinite negative

/-- Negative infinity, and the finite numbers whose value is below zero. -/
def IsBelowZero (v : Float) : Prop := datum v = .infinite true ∨ (v.isFinite = true ∧ value v < 0)

/-- Infinity is taken apart into its sign. -/
lemma unpack_of_rank_eq_infinityRank (h : rank v = infinityRank) :
    v.toModel.unpack = .infinity (sign v) := by
  have hmantissa : unpackMantissa (bits v) = 0#52 := by
    apply BitVec.eq_of_toNat_eq
    rw [toNat_unpackMantissa_bits, h, infinityRank, Nat.mul_mod_left]
    rfl
  rw [unpack_eq, ofFields, if_pos (unpackExponent_bits_eq_ones.mpr h.ge), if_pos hmantissa]

/-- Beyond infinity there are no numbers. -/
lemma unpack_of_infinityRank_lt (h : infinityRank < rank v) : v.toModel.unpack = .notANumber := by
  have hsign : signBit = infinityRank + binade := rfl
  have hinfinity : infinityRank % binade = 0 := Nat.mul_mod_left _ _
  obtain ⟨hrank, -⟩ := toNat_bits v
  have hmantissa : unpackMantissa (bits v) ≠ 0#52 := by
    intro hzero
    have hnat := toNat_unpackMantissa_bits v
    rw [hzero] at hnat
    obtain ⟨k, hk⟩ := Nat.dvd_of_mod_eq_zero hnat.symm
    have hbelow : k < 2048 := by
      apply Nat.lt_of_mul_lt_mul_left (a := binade)
      rw [← hk]
      exact hrank
    have habove : 2047 < k := by
      apply Nat.lt_of_mul_lt_mul_left (a := binade)
      rw [← hk, Nat.mul_comm]
      exact h
    omega
  rw [unpack_eq, ofFields, if_pos (unpackExponent_bits_eq_ones.mpr h.le), if_neg hmantissa]

/-- A finite number that is not zero is taken apart into its sign, a mantissa and an exponent. -/
lemma exists_unpack_of_rank_pos (hpos : 0 < rank v) (hfinite : rank v < infinityRank) :
    ∃ m e hm, v.toModel.unpack = .finite (sign v) m e hm := by
  rcases Nat.lt_or_ge (rank v) binade with hsmall | hlarge
  · obtain ⟨hm, hunpack⟩ := unpack_of_lt_binade hpos hsmall
    exact ⟨_, _, hm, hunpack⟩
  · obtain ⟨hm, hunpack⟩ := unpack_of_binade_le hlarge hfinite
    exact ⟨_, _, hm, hunpack⟩

/-! ### The order of a number and zero -/

/-- How a number is ordered to zero: in no way, if it is none. -/
def orderToZero (v : Float) : Option Ordering :=
  if infinityRank < rank v then none
  else if rank v = 0 then some .eq
  else if isNegative v then some .lt
  else some .gt

/-- The comparison with zero in the logical model. -/
lemma compare_zero (v : Float) :
    v.toModel.unpack.compare (0 : Float).toModel.unpack = orderToZero v := by
  have hzero : (0 : Float).toModel.unpack = .zero .positive := rfl
  rw [hzero, orderToZero]
  by_cases hnan : infinityRank < rank v
  · rw [if_pos hnan, unpack_of_infinityRank_lt hnan]
    rfl
  · rw [if_neg hnan]
    by_cases hrank : rank v = 0
    · rw [if_pos hrank, unpack_of_rank_eq_zero hrank]
      rfl
    · rw [if_neg hrank]
      rcases Nat.lt_or_eq_of_le (Nat.le_of_not_lt hnan) with hfinite | hinfinite
      · obtain ⟨m, e, hm, hunpack⟩ := exists_unpack_of_rank_pos (Nat.pos_of_ne_zero hrank) hfinite
        rw [hunpack, sign]
        cases isNegative v <;> rfl
      · rw [unpack_of_rank_eq_infinityRank hinfinite, sign]
        cases isNegative v <;> rfl

/-- The zeros are the numbers of rank zero. -/
lemma isZero_iff : IsZero v ↔ rank v = 0 := by
  constructor
  · rintro ⟨negative, h⟩
    exact (of_datum_eq_finite h).2.1
  · intro h
    have hinfinity : 0 < infinityRank := by decide
    exact ⟨isNegative v, by rw [datum, h, if_neg (Nat.not_lt_zero _), if_neg hinfinity.ne]⟩

/-- The infinities are the numbers of the rank of infinity. -/
lemma isInfinite_iff : IsInfinite v ↔ rank v = infinityRank := by
  constructor
  · rintro ⟨negative, h⟩
    exact (of_datum_eq_infinite h).2
  · intro h
    exact ⟨isNegative v, by rw [datum, h, if_neg (Nat.lt_irrefl _), if_pos rfl]⟩

/-- What lies below zero has a sign and a rank, and is a number. -/
lemma isBelowZero_iff :
    IsBelowZero v ↔ isNegative v = true ∧ rank v ≠ 0 ∧ rank v ≤ infinityRank := by
  constructor
  · rintro (h | ⟨hfinite, hvalue⟩)
    · obtain ⟨hsign, hrank⟩ := of_datum_eq_infinite h
      exact ⟨hsign, by rw [hrank]; decide, hrank.le⟩
    · obtain ⟨hsign, hrank⟩ := (value_neg_iff hfinite).mp hvalue
      exact ⟨hsign, hrank, (isFinite_iff.mp hfinite).le⟩
  · rintro ⟨hsign, hrank, hle⟩
    rcases Nat.lt_or_eq_of_le hle with hlt | heq
    · have hfinite := isFinite_iff.mpr hlt
      exact Or.inr ⟨hfinite, (value_neg_iff hfinite).mpr ⟨hsign, hrank⟩⟩
    · exact Or.inl (by rw [datum, heq, if_neg (Nat.lt_irrefl _), if_pos rfl, hsign])

/-! ### Comparisons -/

/-- Equality with zero by the comparison of the logical model. -/
lemma beq_zero_iff_orderToZero : (v == 0) = true ↔ orderToZero v = some .eq := by
  have hbeq : (v == 0) = (v.toModel.unpack.compare (0 : Float).toModel.unpack == some .eq) := rfl
  rw [hbeq, compare_zero, beq_iff_eq]

/-- The order below zero by the comparison of the logical model. -/
lemma lt_zero_iff_orderToZero : v < 0 ↔ orderToZero v = some .lt := by
  have hlt : v < 0 ↔ (v.toModel.unpack.compare (0 : Float).toModel.unpack == some .lt) = true :=
    decide_eq_true_iff
  rw [hlt, compare_zero, beq_iff_eq]

/-- The order up to zero by the comparison of the logical model. -/
lemma le_zero_iff_orderToZero : v ≤ 0 ↔ orderToZero v = some .lt ∨ orderToZero v = some .eq := by
  have hle : v ≤ 0 ↔
      (v.toModel.unpack.compare (0 : Float).toModel.unpack).any Ordering.isLE = true :=
    decide_eq_true_iff
  rw [hle, compare_zero]
  rcases orderToZero v with _ | _ | _ | _ <;> decide

/-- Both zeros are equal to the number zero, and no other number is. -/
theorem beq_zero_iff : (v == 0) = true ↔ IsZero v := by
  have hinfinity : 0 < infinityRank := by decide
  rw [beq_zero_iff_orderToZero, isZero_iff, orderToZero]
  split_ifs with hnan hrank hsign
  · exact iff_of_false (by decide) (by omega)
  · exact iff_of_true rfl hrank
  · exact iff_of_false (by decide) hrank
  · exact iff_of_false (by decide) hrank

/-- What is less than zero lies below it. -/
theorem lt_zero_iff : v < 0 ↔ IsBelowZero v := by
  rw [lt_zero_iff_orderToZero, isBelowZero_iff, orderToZero]
  split_ifs with hnan hrank hsign
  · exact iff_of_false (by decide) fun h => absurd h.2.2 (Nat.not_le.mpr hnan)
  · exact iff_of_false (by decide) fun h => h.2.1 hrank
  · exact iff_of_true rfl ⟨hsign, hrank, Nat.le_of_not_lt hnan⟩
  · exact iff_of_false (by decide) fun h => hsign h.1

/-- What is at most zero lies below it or is zero. -/
theorem le_zero_iff : v ≤ 0 ↔ IsBelowZero v ∨ IsZero v := by
  rw [le_zero_iff_orderToZero, ← lt_zero_iff_orderToZero, ← beq_zero_iff_orderToZero, lt_zero_iff,
    beq_zero_iff]

/-- The test for infinity. -/
theorem isInf_iff : v.isInf = true ↔ IsInfinite v := by
  have hinf : v.isInf = v.toModel.unpack.isInf := rfl
  rw [hinf, isInfinite_iff]
  rcases Nat.lt_trichotomy (rank v) infinityRank with hlt | heq | hgt
  · refine iff_of_false ?_ hlt.ne
    rcases Nat.eq_zero_or_pos (rank v) with hzero | hpos
    · rw [unpack_of_rank_eq_zero hzero]
      exact Bool.false_ne_true
    · obtain ⟨m, e, hm, hunpack⟩ := exists_unpack_of_rank_pos hpos hlt
      rw [hunpack]
      exact Bool.false_ne_true
  · rw [unpack_of_rank_eq_infinityRank heq]
    exact iff_of_true rfl heq
  · rw [unpack_of_infinityRank_lt hgt]
    exact iff_of_false Bool.false_ne_true hgt.ne'

/-- What is not a number is beyond infinity. -/
lemma datum_eq_notANumber_iff : datum v = .notANumber ↔ infinityRank < rank v := by
  rw [datum]
  split_ifs with hnan hinfinite
  · exact iff_of_true rfl hnan
  · exact iff_of_false (by simp) hnan
  · exact iff_of_false (by simp) hnan

/-- A number is finite or infinite. -/
lemma isFinite_or_isInfinite (h : datum v ≠ .notANumber) : v.isFinite = true ∨ IsInfinite v := by
  rw [isFinite_iff, isInfinite_iff]
  exact Nat.lt_or_eq_of_le (Nat.le_of_not_lt (mt datum_eq_notANumber_iff.mpr h))

/-- A finite number that is neither zero nor below it has a value above zero. -/
lemma value_pos (hv : v.isFinite = true) (hbelow : ¬ IsBelowZero v) (hzero : ¬ IsZero v) :
    0 < value v := by
  have hunits : 0 < units (rank v) := units_pos (Nat.pos_of_ne_zero (mt isZero_iff.mpr hzero))
  have habs : 0 < |value v| := by
    rw [abs_value hv]
    exact div_pos (Nat.cast_pos.mpr hunits) unitsPerOne_cast_pos
  have hnonneg : 0 ≤ value v := not_lt.mp fun hneg => hbelow (Or.inr ⟨hv, hneg⟩)
  rwa [abs_of_nonneg hnonneg] at habs

/-- What is not a number is neither zero nor below it, and neither finite nor infinite. -/
theorem of_datum_eq_notANumber (h : datum v = .notANumber) :
    ¬ IsZero v ∧ ¬ IsBelowZero v ∧ ¬ IsInfinite v ∧ ¬ v.isFinite = true := by
  have hrank := datum_eq_notANumber_iff.mp h
  rw [isZero_iff, isBelowZero_iff, isInfinite_iff, isFinite_iff]
  refine ⟨?_, fun hbelow => absurd hbelow.2.2 (Nat.not_le.mpr hrank), hrank.ne', hrank.le.not_gt⟩
  intro hzero
  rw [hzero] at hrank
  exact Nat.not_lt_zero _ hrank

end ReplayCalculator.Binary64
