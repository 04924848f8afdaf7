import Mathlib.Tactic.Lemma
import ReplayCalculator.Proofs.Decimal.Comparison

/-!
# How far results reach

A result of floating-point operations is rounded in the logical model without a bound for its
exponent, and is then packed into bits, where an exponent that is too large makes it an infinity. So
a sum, a difference, a product or a quotient of finite numbers is finite or an infinity
(`isFinite_or_isInfinite_add` and the theorems after it), and is never something that is not a
number.

Where no infinity can come out, this is seen from the exponents. `IsBounded` limits them from above,
and `IsNormal` also from below, which is what division asks of its divisor. Roundings, packings and
the operations hand these limits on. Square roots are finite for this reason (`isFinite_sqrt`), and
so are the products of whole numbers of 32 binary digits and the reciprocals of such numbers
(`isBounded_one_div`, `IsBounded.mul`).
-/

namespace ReplayCalculator.Binary64

open Float.Model Float.Model.UnpackedFloat

/-! ### Rounding -/

/-- A mantissa that is shifted by so many places is divided by that power of two. -/
lemma mantissa_shiftRight (em : ExtendedMantissa) (k : ℕ) :
    (em >>> k).mantissa = em.mantissa / 2 ^ k := by
  have hrepeat : ∀ k, (em >>> k) = Nat.repeat ExtendedMantissa.shiftRightOne k em := fun _ => rfl
  rw [hrepeat]
  induction k with
  | zero => rw [pow_zero, Nat.div_one]; rfl
  | succ k ih =>
    rw [Nat.repeat, ExtendedMantissa.shiftRightOne, ih, Nat.div_div_eq_div_mul, ← pow_succ]

/-- Rounding leaves a mantissa, or takes it to the next one. -/
lemma roundedMantissa_bounds (em : ExtendedMantissa) :
    em.mantissa ≤ em.roundedMantissa ∧ em.roundedMantissa ≤ em.mantissa + 1 := by
  have hround : em.roundedMantissa = em.accuracy.roundToNearestEven em.mantissa := rfl
  rw [hround]
  rcases em.accuracy with _ | _ | _ | _ <;> simp only [Accuracy.roundToNearestEven] <;> omega

/-- The exponent at which a mantissa has at most 53 binary digits, and at least that of the smallest
number. -/
lemma targetExponent_eq (m : ℕ) (e : ℤ) :
    Format.binary64.targetExponent (totalExponent m e) = max (m.log2 + e - 52) (-1074) := by
  have hmin : Format.binary64.minExponent = -1074 := rfl
  have hwidth : (Format.binary64.mantissaBits : ℤ) = 53 := rfl
  rw [Format.targetExponent, totalExponent, hmin, hwidth]
  congr 1
  omega

/-- Shifting to this exponent. -/
lemma shiftToTargetExponent_eq (m : ℕ) (e : ℤ) (accuracy : Accuracy) :
    let k := (max (m.log2 + e - 52) (-1074) - e).toNat
    (shiftToTargetExponent .binary64 m e accuracy).1.mantissa = m / 2 ^ k ∧
      (shiftToTargetExponent .binary64 m e accuracy).2 = e + k := by
  have hmantissa : (ExtendedMantissa.ofMantissaAndAccuracy m accuracy).mantissa = m := by
    rcases accuracy with _ | _ | _ | _ <;> rfl
  simp only [shiftToTargetExponent, shiftToExponent, targetExponent_eq, mantissa_shiftRight,
    hmantissa, and_self]

/-- A mantissa shifted by enough places has at most 53 binary digits. -/
lemma div_two_pow_lt {m k : ℕ} (hk : m.log2 ≤ 52 + k) : m / 2 ^ k < 2 ^ 53 := by
  rw [Nat.div_lt_iff_lt_mul (Nat.two_pow_pos k), ← pow_add]
  exact Nat.lt_log2_self.trans_le (Nat.pow_le_pow_right (by decide) (by omega))

/-- A mantissa shifted by few enough places has at least 53 binary digits. -/
lemma le_div_two_pow {m k : ℕ} (hm : m ≠ 0) (hk : 52 + k ≤ m.log2) : 2 ^ 52 ≤ m / 2 ^ k := by
  rw [Nat.le_div_iff_mul_le (Nat.two_pow_pos k), ← pow_add]
  exact (Nat.pow_le_pow_right (by decide) hk).trans (Nat.log2_self_le hm)

/-- A rounded mantissa is shifted by one more place at most, if it has one binary digit too many. -/
lemma carry_bounds {r : ℕ} (hr : r ≤ 2 ^ 53) {e : ℤ} (he : -1074 ≤ e) :
    let k := (max (r.log2 + e - 52) (-1074) - e).toNat
    k ≤ 1 ∧ r / 2 ^ k < 2 ^ 53 ∧ (2 ^ 52 ≤ r → 2 ^ 52 ≤ r / 2 ^ k) := by
  intro k
  have hlog : r.log2 ≤ 53 := by
    rcases Nat.eq_zero_or_pos r with rfl | hpos
    · decide
    · exact Nat.lt_succ_iff.mp ((Nat.log2_lt hpos.ne').mpr (hr.trans_lt (by decide)))
  refine ⟨by omega, div_two_pow_lt (by omega), fun hlarge => ?_⟩
  have hne : r ≠ 0 := by omega
  have hleading : 52 ≤ r.log2 := (Nat.le_log2 hne).mpr hlarge
  exact le_div_two_pow hne (by omega)

/-- The result of a rounding is zero, or has a mantissa of at most 53 binary digits and an exponent
that is larger by one at most than these digits ask for. If the number is not too small, then its
mantissa has exactly 53 binary digits. -/
lemma exists_roundWithAccuracy_eq (s : Sign) (m : ℕ) (e : ℤ) (accuracy : Accuracy) :
    ∃ (f : ℕ) (e' : ℤ),
      roundWithAccuracy .binary64 s m e accuracy =
        (if h : f = 0 then .zero s else .finite s f e' (Nat.pos_of_ne_zero h)) ∧
      f < 2 ^ 53 ∧ e' ≤ max e (max (m.log2 + e - 52) (-1074)) + 1 ∧
      (52 ≤ m.log2 → -1022 ≤ m.log2 + e → 2 ^ 52 ≤ f ∧ m.log2 + e - 52 ≤ e') := by
  obtain ⟨hmantissa, hexponent⟩ := shiftToTargetExponent_eq m e accuracy
  set first := shiftToTargetExponent .binary64 m e accuracy
  set k := (max (m.log2 + e - 52) (-1074) - e).toNat
  obtain ⟨hlow, hhigh⟩ := roundedMantissa_bounds first.1
  have hdigits : m / 2 ^ k < 2 ^ 53 := div_two_pow_lt (by omega)
  -- after the first shift the mantissa may still be rounded up to the next power of two
  obtain ⟨hcarry, hbound, hleading⟩ := carry_bounds (r := first.1.roundedMantissa) (e := first.2)
    (by omega) (by omega)
  obtain ⟨hmantissa', hexponent'⟩ :=
    shiftToTargetExponent_eq first.1.roundedMantissa first.2 .exact
  refine ⟨_, _, rfl, hmantissa' ▸ hbound, ?_, fun hlarge hnormal => ⟨?_, ?_⟩⟩
  · show (shiftToTargetExponent .binary64 first.1.roundedMantissa first.2 .exact).2 ≤ _
    omega
  · show 2 ^ 52 ≤
      (shiftToTargetExponent .binary64 first.1.roundedMantissa first.2 .exact).1.mantissa
    have hne : m ≠ 0 := by
      rintro rfl
      exact absurd hlarge (by decide)
    rw [hmantissa']
    refine hleading ((le_div_two_pow hne ?_).trans (hmantissa ▸ hlow))
    omega
  · show _ ≤ (shiftToTargetExponent .binary64 first.1.roundedMantissa first.2 .exact).2
    omega

/-! ### Bounded and normal numbers -/

/-- A zero, or a number with at most 53 binary digits from the exponent `hi` down. -/
def IsBounded (hi : ℤ) : UnpackedFloat → Prop
  | .zero _ => True
  | .finite _ m e _ => m < 2 ^ 53 ∧ e ≤ hi
  | _ => False

/-- A number with exactly 53 binary digits, at an exponent between the two. -/
def IsNormal (lo hi : ℤ) (u : UnpackedFloat) : Prop :=
  ∃ s m e hm, u = .finite s m e hm ∧ 2 ^ 52 ≤ m ∧ m < 2 ^ 53 ∧ lo ≤ e ∧ e ≤ hi

/-- A number of the logical model that is finite is a zero, or has a mantissa and an exponent. -/
lemma eq_zero_or_finite {u : UnpackedFloat} (hu : u.isFinite = true) :
    (∃ s, u = .zero s) ∨ ∃ s m e hm, u = .finite s m e hm := by
  rcases u with _ | _ | s | ⟨s, m, e, hm⟩
  · cases hu
  · cases hu
  · exact Or.inl ⟨s, rfl⟩
  · exact Or.inr ⟨s, m, e, hm, rfl⟩

/-- A bounded number is finite. -/
lemma IsBounded.isFinite {hi : ℤ} {u : UnpackedFloat} (hu : IsBounded hi u) :
    u.isFinite = true := by
  rcases u with _ | _ | _ | _
  · exact hu.elim
  · exact hu.elim
  · rfl
  · rfl

/-- The exponents of finite numbers. -/
lemma isBounded_unpack {v : Float} (hv : v.isFinite = true) : IsBounded 971 v.toModel.unpack := by
  have hbinade : binade = 2 ^ 52 := rfl
  have hfinite := isFinite_iff.mp hv
  rcases Nat.eq_zero_or_pos (rank v) with hzero | hpos
  · rw [unpack_of_rank_eq_zero hzero]
    trivial
  · rcases Nat.lt_or_ge (rank v) binade with hsmall | hlarge
    · obtain ⟨hm, hunpack⟩ := unpack_of_lt_binade hpos hsmall
      rw [hunpack]
      exact ⟨by omega, by decide⟩
    · obtain ⟨hm, hunpack⟩ := unpack_of_binade_le hlarge hfinite
      have hmod : rank v % binade < binade := Nat.mod_lt _ (by decide)
      have hdiv : rank v / binade < 2047 := Nat.div_lt_of_lt_mul (by rwa [Nat.mul_comm])
      rw [hunpack]
      exact ⟨by omega, by omega⟩

/-- A rounding bounds its result. -/
lemma isBounded_roundWithAccuracy (s : Sign) {m : ℕ} {e hi : ℤ} (accuracy : Accuracy) (he : e < hi)
    (hm : m.log2 + e < hi + 52) (hhi : -1074 < hi) :
    IsBounded hi (roundWithAccuracy .binary64 s m e accuracy) := by
  obtain ⟨f, e', hround, hdigits, hexponent, -⟩ := exists_roundWithAccuracy_eq s m e accuracy
  rw [hround]
  by_cases hzero : f = 0
  · rw [dif_pos hzero]
    trivial
  · rw [dif_neg hzero]
    exact ⟨hdigits, by omega⟩

/-- A number that is not too small is rounded to a normal number. -/
lemma isNormal_roundWithAccuracy (s : Sign) {m : ℕ} {e : ℤ} (accuracy : Accuracy) (hm : 52 ≤ m.log2)
    (he : -1022 ≤ m.log2 + e) :
    IsNormal (m.log2 + e - 52) (m.log2 + e - 51) (roundWithAccuracy .binary64 s m e accuracy) := by
  obtain ⟨f, e', hround, hdigits, hexponent, hnormal⟩ := exists_roundWithAccuracy_eq s m e accuracy
  obtain ⟨hleading, hlow⟩ := hnormal hm he
  have hne : f ≠ 0 := by omega
  rw [hround, dif_neg hne]
  exact ⟨s, f, e', Nat.pos_of_ne_zero hne, rfl, hleading, hdigits, hlow, by omega⟩

/-! ### Packing -/

/-- What becomes of a number in the logical model when it is packed into bits. -/
def packed (u : UnpackedFloat) : UnpackedFloat :=
  UnpackedFloat.unpack .binary64 (UnpackedFloat.pack .binary64 u)

/-- Bits of which those of the exponent are not all set are a bounded number. -/
lemma isBounded_unpack_packComponents (s : Sign) {exponent : BitVec 11}
    (mantissa : BitVec 52) {hi : ℤ} (htop : exponent ≠ -1#11) (hhi : -1074 ≤ hi)
    (hexponent : (exponent.toNat : ℤ) - 1075 ≤ hi) :
    IsBounded hi
      (UnpackedFloat.unpack .binary64 (packComponents .binary64 s exponent mantissa)) := by
  have hmantissa := mantissa.isLt
  rw [unpack_packComponents, ofFields, if_neg htop]
  by_cases hzero : exponent = 0#11
  · rw [if_pos hzero]
    by_cases hnone : mantissa = 0#52
    · rw [dif_pos hnone]
      trivial
    · rw [dif_neg hnone]
      refine ⟨by omega, ?_⟩
      rw [hzero]
      exact hhi
  · rw [if_neg hzero]
    refine ⟨?_, hexponent⟩
    have hbinade : binade = 2 ^ 52 := rfl
    rw [toNat_one_append]
    omega

/-- The exponent with which a finite number is packed. -/
lemma toNat_ofNat_exponent {e : ℤ} (he : e ≤ 971) :
    (BitVec.ofNat 11 (e + 1023 + 52).toNat).toNat = (e + 1075).toNat ∧
      BitVec.ofNat 11 (e + 1023 + 52).toNat ≠ -1#11 := by
  have hnat : (BitVec.ofNat 11 (e + 1023 + 52).toNat).toNat = (e + 1075).toNat := by
    rw [BitVec.toNat_ofNat]
    omega
  refine ⟨hnat, fun htop => ?_⟩
  have hones : (-1#11).toNat = 2047 := rfl
  rw [htop, hones] at hnat
  omega

/-- Packing a finite number gives a number whose exponent is not larger, unless the number is too
large. -/
lemma isBounded_packed_finite (s : Sign) {m : ℕ} {e hi : ℤ} (hm : 0 < m) (he : e ≤ hi)
    (hlo : -1074 ≤ hi) (hhi : e ≤ 971) : IsBounded hi (packed (.finite s m e hm)) := by
  obtain ⟨hexponent, htop⟩ := toNat_ofNat_exponent hhi
  have hfits : ¬ 2048 ≤ (e + 1023 + 52).toNat + 1 := by omega
  rw [packed, pack_finite, if_neg hfits]
  split
  · exact isBounded_unpack_packComponents s _ htop hlo (by omega)
  · refine isBounded_unpack_packComponents s _ (by decide) hlo ?_
    have hnone : (0#11).toNat = 0 := rfl
    omega

/-- A number that is too large is packed as an infinity. -/
lemma packed_finite_of_lt (s : Sign) {m : ℕ} {e : ℤ} (hm : 0 < m) (he : 971 < e) :
    packed (.finite s m e hm) = .infinity s := by
  rw [packed, pack_finite, if_pos (by omega)]
  rcases s with _ | _ <;> rfl

/-- Zeros stay zeros. -/
lemma packed_zero (s : Sign) : packed (.zero s) = .zero s := by
  rcases s with _ | _ <;> rfl

/-- Infinities stay infinities. -/
lemma packed_infinity (s : Sign) : packed (.infinity s) = .infinity s := by
  rcases s with _ | _ <;> rfl

/-- A bounded number stays bounded. -/
lemma IsBounded.packed {hi : ℤ} {u : UnpackedFloat} (hu : IsBounded hi u) (hlo : -1074 ≤ hi)
    (hhi : hi ≤ 971) : IsBounded hi (packed u) := by
  rcases eq_zero_or_finite hu.isFinite with ⟨s, rfl⟩ | ⟨s, m, e, hm, rfl⟩
  · rw [packed_zero]
    trivial
  · exact isBounded_packed_finite s hm hu.2 hlo (hu.2.trans hhi)

/-- A normal number stays itself. -/
lemma IsNormal.packed {lo hi : ℤ} {u : UnpackedFloat} (hu : IsNormal lo hi u) (hlo : -1074 ≤ lo)
    (hhi : hi ≤ 971) : IsNormal lo hi (packed u) := by
  obtain ⟨s, m, e, hm, rfl, hleading, hdigits, hle, hge⟩ := hu
  obtain ⟨hexponent, htop⟩ := toNat_ofNat_exponent (hge.trans hhi)
  have hfits : ¬ 2048 ≤ (e + 1023 + 52).toNat + 1 := by omega
  have hlog : m.log2 + 1 = 53 := by
    rw [(Nat.log2_eq_iff hm.ne').mpr ⟨hleading, hdigits⟩]
  have hnonzero : BitVec.ofNat 11 (e + 1023 + 52).toNat ≠ 0#11 := by
    intro hzero
    rw [hzero] at hexponent
    have hnone : (0#11).toNat = 0 := rfl
    omega
  have hmantissa : (1#1 ++ BitVec.ofNat 52 m).toNat = m := by
    have hbinade : binade = 2 ^ 52 := rfl
    rw [toNat_one_append, BitVec.toNat_ofNat]
    omega
  refine ⟨s, m, e, hm, ?_, hleading, hdigits, hle, hge⟩
  rw [Binary64.packed, pack_finite, if_neg hfits, if_pos hlog, unpack_packComponents, ofFields,
    if_neg htop, if_neg hnonzero, UnpackedFloat.finite.injEq]
  refine ⟨rfl, hmantissa, ?_⟩
  omega

/-! ### Results of finite operands -/

section Unpacked

variable {u w : UnpackedFloat}

/-- A rounding gives a finite number. -/
lemma isFinite_roundWithAccuracy (s : Sign) (m : ℕ) (e : ℤ) (accuracy : Accuracy) :
    (roundWithAccuracy .binary64 s m e accuracy).isFinite = true := by
  have hbounded : IsBounded (max (e + 1) (max (m.log2 + e - 51) (-1073)))
      (roundWithAccuracy .binary64 s m e accuracy) :=
    isBounded_roundWithAccuracy s accuracy (by omega) (by omega) (by omega)
  exact hbounded.isFinite

/-- A whole number of steps is a finite number, in the model, where the exponents have no bound. -/
lemma isFinite_normalize (m e : ℤ) (s : Sign) :
    (UnpackedFloat.normalize .binary64 m e s).isFinite = true := by
  unfold UnpackedFloat.normalize
  split
  · exact isFinite_roundWithAccuracy _ _ _ _
  · rfl
  · exact isFinite_roundWithAccuracy _ _ _ _

/-- Sums of finite numbers. -/
lemma isFinite_add (hu : u.isFinite = true) (hw : w.isFinite = true) :
    (UnpackedFloat.add .binary64 u w).isFinite = true := by
  rcases eq_zero_or_finite hu with ⟨s, rfl⟩ | ⟨s, m, e, hm, rfl⟩ <;>
    rcases eq_zero_or_finite hw with ⟨s', rfl⟩ | ⟨s', m', e', hm', rfl⟩
  · rcases s with _ | _ <;> rcases s' with _ | _ <;> rfl
  · rfl
  · rfl
  · exact isFinite_normalize _ _ _

/-- Differences of finite numbers. -/
lemma isFinite_sub (hu : u.isFinite = true) (hw : w.isFinite = true) :
    (UnpackedFloat.sub .binary64 u w).isFinite = true := by
  rcases eq_zero_or_finite hu with ⟨s, rfl⟩ | ⟨s, m, e, hm, rfl⟩ <;>
    rcases eq_zero_or_finite hw with ⟨s', rfl⟩ | ⟨s', m', e', hm', rfl⟩
  · rcases s with _ | _ <;> rcases s' with _ | _ <;> rfl
  · rfl
  · rfl
  · exact isFinite_normalize _ _ _

/-- Products of finite numbers. -/
lemma isFinite_mul (hu : u.isFinite = true) (hw : w.isFinite = true) :
    (UnpackedFloat.mul .binary64 u w).isFinite = true := by
  rcases eq_zero_or_finite hu with ⟨s, rfl⟩ | ⟨s, m, e, hm, rfl⟩ <;>
    rcases eq_zero_or_finite hw with ⟨s', rfl⟩ | ⟨s', m', e', hm', rfl⟩
  · rfl
  · rfl
  · rfl
  · exact isFinite_roundWithAccuracy _ _ _ _

/-- Quotients of finite numbers by numbers other than zero. -/
lemma isFinite_div (hu : u.isFinite = true) {s : Sign} {m : ℕ} {e : ℤ} {hm : 0 < m} :
    (UnpackedFloat.div .binary64 u (.finite s m e hm)).isFinite = true := by
  rcases eq_zero_or_finite hu with ⟨s', rfl⟩ | ⟨s', m', e', hm', rfl⟩
  · rfl
  · exact isFinite_roundWithAccuracy _ _ _ _

end Unpacked

section Results

variable {x y : Float}

/-- The infinities are those of the logical model. -/
lemma exists_unpack_of_isInfinite (hx : IsInfinite x) : ∃ s, x.toModel.unpack = .infinity s :=
  ⟨sign x, unpack_of_rank_eq_infinityRank (isInfinite_iff.mp hx)⟩

/-- The infinities of the logical model are infinite. -/
lemma isInfinite_of_unpack {s : Sign} (h : x.toModel.unpack = .infinity s) : IsInfinite x := by
  have hinf : x.isInf = x.toModel.unpack.isInf := rfl
  rw [← isInf_iff, hinf, h]
  rfl

/-- What is packed from a finite number of the model is finite, unless it is too large. -/
lemma isFinite_or_isInfinite_of_packed {v : Float} {u : UnpackedFloat}
    (h : v.toModel.unpack = packed u) (hu : u.isFinite = true) :
    v.isFinite = true ∨ IsInfinite v := by
  have hfinite : v.isFinite = v.toModel.unpack.isFinite := rfl
  rcases eq_zero_or_finite hu with ⟨s, rfl⟩ | ⟨s, m, e, hm, rfl⟩
  · left
    rw [hfinite, h, packed_zero]
    rfl
  · rcases le_or_gt e 971 with hle | hgt
    · left
      rw [hfinite, h]
      exact (isBounded_packed_finite s hm hle (by decide) hle).isFinite
    · right
      rw [packed_finite_of_lt s hm hgt] at h
      exact isInfinite_of_unpack h

/-- A sum of finite numbers is finite, or too large. -/
theorem isFinite_or_isInfinite_add (hx : x.isFinite = true) (hy : y.isFinite = true) :
    (x + y).isFinite = true ∨ IsInfinite (x + y) :=
  isFinite_or_isInfinite_of_packed rfl (isFinite_add hx hy)

/-- A difference of finite numbers is finite, or too large. -/
theorem isFinite_or_isInfinite_sub (hx : x.isFinite = true) (hy : y.isFinite = true) :
    (x - y).isFinite = true ∨ IsInfinite (x - y) :=
  isFinite_or_isInfinite_of_packed rfl (isFinite_sub hx hy)

/-- A product of finite numbers is finite, or too large. -/
theorem isFinite_or_isInfinite_mul (hx : x.isFinite = true) (hy : y.isFinite = true) :
    (x * y).isFinite = true ∨ IsInfinite (x * y) :=
  isFinite_or_isInfinite_of_packed rfl (isFinite_mul hx hy)

/-- A finite number other than zero is taken apart into sign, mantissa and exponent. -/
lemma exists_unpack_of_not_isZero (hx : x.isFinite = true) (hzero : ¬ IsZero x) :
    ∃ s m e hm, x.toModel.unpack = .finite s m e hm := by
  have hpos : 0 < rank x := Nat.pos_of_ne_zero (mt isZero_iff.mpr hzero)
  obtain ⟨m, e, hm, hunpack⟩ := exists_unpack_of_rank_pos hpos (isFinite_iff.mp hx)
  exact ⟨_, m, e, hm, hunpack⟩

/-- A quotient of finite numbers is finite, or too large, if the divisor is not zero. -/
theorem isFinite_or_isInfinite_div (hx : x.isFinite = true) (hy : y.isFinite = true)
    (hzero : ¬ IsZero y) : (x / y).isFinite = true ∨ IsInfinite (x / y) := by
  obtain ⟨s, m, e, hm, hunpack⟩ := exists_unpack_of_not_isZero hy hzero
  refine isFinite_or_isInfinite_of_packed rfl ?_
  have hdivisor : y.toModel.unpack = .finite s m e hm := hunpack
  show (UnpackedFloat.div .binary64 x.toModel.unpack y.toModel.unpack).isFinite = true
  rw [hdivisor]
  exact isFinite_div hx

/-- The cube of a finite number is finite, or too large. -/
theorem isFinite_or_isInfinite_cube (hx : x.isFinite = true) :
    (x * x * x).isFinite = true ∨ IsInfinite (x * x * x) := by
  rcases isFinite_or_isInfinite_mul hx hx with hsquare | hsquare
  · exact isFinite_or_isInfinite_mul hsquare hx
  · right
    obtain ⟨s, hinfinite⟩ := exists_unpack_of_isInfinite hsquare
    have hzero : ¬ IsZero x := by
      intro hzero
      have hproduct : (x * x).toModel.unpack =
          packed (UnpackedFloat.mul .binary64 x.toModel.unpack x.toModel.unpack) := rfl
      have hmul : UnpackedFloat.mul .binary64 (.zero (sign x)) (.zero (sign x)) =
          .zero (sign x * sign x) := rfl
      rw [unpack_of_rank_eq_zero (isZero_iff.mp hzero), hmul, packed_zero, hinfinite] at hproduct
      cases hproduct
    obtain ⟨s', m, e, hm, hunpack⟩ := exists_unpack_of_not_isZero hx hzero
    have hcube : (x * x * x).toModel.unpack =
        packed (UnpackedFloat.mul .binary64 (x * x).toModel.unpack x.toModel.unpack) := rfl
    have hmul : UnpackedFloat.mul .binary64 (.infinity s) (.finite s' m e hm) =
        .infinity (s * s') := rfl
    rw [hinfinite, hunpack, hmul, packed_infinity] at hcube
    exact isInfinite_of_unpack hcube

/-- The negative of a finite number is finite. -/
theorem isFinite_neg (hx : x.isFinite = true) : (-x).isFinite = true := by
  have hbounded := isBounded_unpack hx
  have hneg : IsBounded 971 (UnpackedFloat.neg x.toModel.unpack) := by
    rcases hunpack : x.toModel.unpack with _ | _ | s | ⟨s, m, e, hm⟩ <;>
      rw [hunpack] at hbounded <;> exact hbounded
  exact (hneg.packed (by decide) (by decide)).isFinite

/-- The square root of a mantissa has half as many binary digits. -/
lemma two_mul_log2_sqrt_le {n k : ℕ} (hn : n < 2 ^ k) : 2 * n.sqrt.log2 ≤ k := by
  rcases Nat.eq_zero_or_pos n.sqrt with hzero | hpos
  · rw [hzero, Nat.log2_zero]
    exact Nat.zero_le k
  · refine (Nat.pow_lt_pow_iff_right (by decide : 1 < 2)).mp ?_ |>.le
    calc 2 ^ (2 * n.sqrt.log2) = 2 ^ n.sqrt.log2 * 2 ^ n.sqrt.log2 := by rw [two_mul, pow_add]
      _ ≤ n.sqrt * n.sqrt := Nat.mul_le_mul (Nat.log2_self_le hpos.ne') (Nat.log2_self_le hpos.ne')
      _ ≤ n := Nat.sqrt_le n
      _ < 2 ^ k := hn

/-- The square root of a positive number that is bounded is bounded by half of the exponent,
about. -/
lemma isBounded_sqrt {m : ℕ} {e : ℤ} {hm : 0 < m} (hdigits : m < 2 ^ 53) (he : e ≤ 971) :
    IsBounded 971 (UnpackedFloat.sqrt .binary64 (.finite .positive m e hm)) := by
  have hsqrt : UnpackedFloat.sqrt .binary64 (.finite .positive m e hm) =
      roundWithAccuracy .binary64 .positive (sqrtCore .binary64 m e).1 (sqrtCore .binary64 m e).2.1
        (sqrtCore .binary64 m e).2.2 := rfl
  set t := min (e.ediv 2) (Format.binary64.targetExponent ((totalExponent m e + 1).ediv 2))
  have htarget : (sqrtCore .binary64 m e).2.1 = t := rfl
  have hroot : (sqrtCore .binary64 m e).1 = (m <<< (e - 2 * t).toNat).sqrt := rfl
  have hhalf : t ≤ e / 2 := min_le_left _ _
  have hshift : m <<< (e - 2 * t).toNat < 2 ^ (53 + (e - 2 * t).toNat) := by
    rw [Nat.shiftLeft_eq, pow_add]
    exact Nat.mul_lt_mul_of_pos_right hdigits (Nat.two_pow_pos _)
  have hlog := two_mul_log2_sqrt_le hshift
  rw [hsqrt, htarget, hroot]
  exact isBounded_roundWithAccuracy _ _ (by omega) (by omega) (by decide)

/-- The square root of a finite number that is not below zero is finite. -/
theorem isFinite_sqrt (hx : x.isFinite = true) (hbelow : ¬ IsBelowZero x) :
    x.sqrt.isFinite = true := by
  have hsqrt : x.sqrt.isFinite =
      (packed (UnpackedFloat.sqrt .binary64 x.toModel.unpack)).isFinite := rfl
  rw [hsqrt]
  by_cases hzero : IsZero x
  · rw [unpack_of_rank_eq_zero (isZero_iff.mp hzero)]
    exact congrArg UnpackedFloat.isFinite (packed_zero (sign x))
  · have hfinite := isFinite_iff.mp hx
    have hrank : rank x ≠ 0 := mt isZero_iff.mpr hzero
    obtain ⟨m, e, hm, hunpack⟩ := exists_unpack_of_rank_pos (Nat.pos_of_ne_zero hrank) hfinite
    have hpositive : sign x = .positive := by
      refine if_neg fun hsign => hbelow ?_
      exact isBelowZero_iff.mpr ⟨hsign, hrank, hfinite.le⟩
    have hbounded := isBounded_unpack hx
    rw [hunpack, hpositive] at hbounded ⊢
    exact ((isBounded_sqrt hbounded.1 hbounded.2).packed (by decide) (by decide)).isFinite

end Results

/-! ### Whole numbers and their quotients -/

/-- A shift to the left by so many places adds so many binary digits. -/
lemma log2_shiftLeft {m : ℕ} (hm : m ≠ 0) (k : ℕ) : (m <<< k).log2 = m.log2 + k := by
  have hne : m * 2 ^ k ≠ 0 := Nat.mul_ne_zero hm (Nat.two_pow_pos k).ne'
  rw [Nat.shiftLeft_eq, Nat.log2_eq_iff hne]
  constructor
  · rw [pow_add]
    exact Nat.mul_le_mul_right _ (Nat.log2_self_le hm)
  · rw [Nat.add_right_comm, pow_add]
    exact Nat.mul_lt_mul_of_pos_right Nat.lt_log2_self (Nat.two_pow_pos k)

/-- Wider limits are limits. -/
lemma IsNormal.mono {lo lo' hi hi' : ℤ} {u : UnpackedFloat} (hu : IsNormal lo hi u) (hlo : lo' ≤ lo)
    (hhi : hi ≤ hi') : IsNormal lo' hi' u := by
  obtain ⟨s, m, e, hm, hunpack, hleading, hdigits, hle, hge⟩ := hu
  exact ⟨s, m, e, hm, hunpack, hleading, hdigits, hlo.trans hle, hge.trans hhi⟩

/-- A normal number is bounded. -/
lemma IsNormal.isBounded {lo hi : ℤ} {u : UnpackedFloat} (hu : IsNormal lo hi u) :
    IsBounded hi u := by
  obtain ⟨s, m, e, hm, rfl, -, hdigits, -, hge⟩ := hu
  exact ⟨hdigits, hge⟩

/-- A whole number from one on, of at most 32 binary digits, is converted to a normal number. -/
lemma isNormal_ofUInt64 {n : ℕ} (hpos : 0 < n) (hn : n < 2 ^ 32) :
    IsNormal (-52) 0 (n.toUInt64.toFloat).toModel.unpack := by
  have hnat : n.toUInt64.toNat = n := Nat.mod_eq_of_lt (hn.trans (by decide))
  have hunpack : n.toUInt64.toFloat.toModel.unpack =
      Binary64.packed (UnpackedFloat.normalize .binary64 (n.toUInt64.toNat : ℤ) 0 .positive) := rfl
  have hnormalize : UnpackedFloat.normalize .binary64 (n : ℤ) 0 .positive =
      UnpackedFloat.round .binary64 .positive n 0 := by
    rw [UnpackedFloat.normalize, compare_gt_iff_gt.mpr (Int.natCast_pos.mpr hpos),
      Int.toNat_natCast]
  have hlog : n.log2 < 32 := (Nat.log2_lt hpos.ne').mpr hn
  have hshift : (0 - Format.binary64.targetExponent (totalExponent n 0)).toNat = 52 - n.log2 := by
    rw [targetExponent_eq]
    omega
  have hround : UnpackedFloat.round .binary64 .positive n 0 =
      roundWithAccuracy .binary64 .positive (n <<< (52 - n.log2)) (0 - (52 - n.log2 : ℕ))
        .exact := by
    simp only [UnpackedFloat.round, decreaseExponent, hshift]
  have hdigits : (n <<< (52 - n.log2)).log2 = 52 := by
    rw [log2_shiftLeft hpos.ne']
    omega
  have hnormal : IsNormal (-52) 0 (UnpackedFloat.round .binary64 .positive n 0) := by
    rw [hround]
    exact (isNormal_roundWithAccuracy _ _ hdigits.ge (by omega)).mono (by omega) (by omega)
  rw [hunpack, hnat, hnormalize]
  exact hnormal.packed (by decide) (by decide)

/-- The number one in the logical model. -/
lemma unpack_one : (1 : Float).toModel.unpack = .finite .positive (2 ^ 52) (-52) (by decide) := rfl

/-- Multiplying a normal number by one leaves a normal number. -/
lemma IsNormal.mul_one {lo hi : ℤ} {x : Float} (hx : IsNormal lo hi x.toModel.unpack)
    (hlo : -1074 ≤ lo) (hhi : hi < 971) : IsNormal lo (hi + 1) (x * 1).toModel.unpack := by
  obtain ⟨s, m, e, hm, hunpack, hleading, hdigits, hle, hge⟩ := hx
  have hproduct : (x * 1).toModel.unpack =
      Binary64.packed
        (roundWithAccuracy .binary64 (s * .positive) (m * 2 ^ 52) (e + -52) .exact) := by
    show Binary64.packed
      (UnpackedFloat.mul .binary64 x.toModel.unpack (1 : Float).toModel.unpack) = _
    rw [hunpack, unpack_one]
    rfl
  have hlog : (m * 2 ^ 52).log2 = 104 := by
    rw [← Nat.shiftLeft_eq, log2_shiftLeft hm.ne', (Nat.log2_eq_iff hm.ne').mpr ⟨hleading, hdigits⟩]
  have hnormal : IsNormal lo (hi + 1)
      (roundWithAccuracy .binary64 (s * .positive) (m * 2 ^ 52) (e + -52) .exact) :=
    (isNormal_roundWithAccuracy _ _ (by omega) (by omega)).mono (by omega) (by omega)
  rw [hproduct]
  exact hnormal.packed (by omega) (by omega)

/-- A whole number from one on, of at most 32 binary digits, is a normal number. -/
lemma isNormal_ofNat {n : ℕ} (hpos : 0 < n) (hn : n < 2 ^ 32) :
    IsNormal (-52) 1 (Float.ofNat n).toModel.unpack := by
  have hofNat : Float.ofNat n = n.toUInt64.toFloat * 1 := by
    show Float.ofScientific n false 0 = _
    rw [Float.ofScientific, dif_pos ⟨hn.trans (by decide), by decide⟩]
    rfl
  rw [hofNat]
  exact (isNormal_ofUInt64 hpos hn).mul_one (by decide) (by decide)

/-- Division by a mantissa of 53 binary digits takes away 52 binary digits of a power of two. -/
lemma log2_shiftLeft_div_le {m : ℕ} (hm : 2 ^ 52 ≤ m) (j : ℕ) : ((2 ^ 52) <<< j / m).log2 ≤ j := by
  have hle : (2 ^ 52) <<< j / m ≤ 2 ^ j := by
    rw [Nat.shiftLeft_eq]
    exact Nat.div_le_of_le_mul (Nat.mul_le_mul_right _ hm)
  rcases Nat.eq_zero_or_pos ((2 ^ 52) <<< j / m) with hzero | hpos
  · rw [hzero, Nat.log2_zero]
    exact Nat.zero_le j
  · exact Nat.lt_succ_iff.mp
      ((Nat.log2_lt hpos.ne').mpr (hle.trans_lt (Nat.pow_lt_pow_succ (by decide))))

/-- The reciprocal of a number from one on is bounded. -/
lemma isBounded_one_div {hi : ℤ} {x : Float} (hx : IsNormal (-52) hi x.toModel.unpack) :
    IsBounded 1 (1 / x).toModel.unpack := by
  obtain ⟨s, m, e, hm, hunpack, hleading, -, hle, -⟩ := hx
  have hquotient : (1 / x).toModel.unpack =
      packed (UnpackedFloat.div .binary64 (1 : Float).toModel.unpack x.toModel.unpack) := rfl
  set t := min (-52 - e)
    (Format.binary64.targetExponent (totalExponent (2 ^ 52) (-52) - totalExponent m e))
  have hdiv : UnpackedFloat.div .binary64 (1 : Float).toModel.unpack x.toModel.unpack =
      roundWithAccuracy .binary64 (.positive / s) ((2 ^ 52) <<< (-52 - e - t).toNat / m) t
        (accuracyOfFraction ((2 ^ 52) <<< (-52 - e - t).toNat % m) m) := by
    rw [hunpack, unpack_one]
    rfl
  have ht : t ≤ -52 - e := min_le_left _ _
  have hlog := log2_shiftLeft_div_le hleading (-52 - e - t).toNat
  rw [hquotient, hdiv]
  exact (isBounded_roundWithAccuracy _ _ (by omega) (by omega) (by decide)).packed (by decide)
    (by decide)

/-- The product of numbers with small bounds is bounded. -/
lemma IsBounded.mul {u w : UnpackedFloat} (hu : IsBounded 1 u) (hw : IsBounded 1 w) :
    IsBounded 971 (UnpackedFloat.mul .binary64 u w) := by
  rcases eq_zero_or_finite hu.isFinite with ⟨s, rfl⟩ | ⟨s, m, e, hm, rfl⟩ <;>
    rcases eq_zero_or_finite hw.isFinite with ⟨s', rfl⟩ | ⟨s', m', e', hm', rfl⟩
  · trivial
  · trivial
  · trivial
  · have hdigits : m * m' < 2 ^ 53 * 2 ^ 53 := Nat.mul_lt_mul'' hu.1 hw.1
    have hlog : (m * m').log2 < 106 := (Nat.log2_lt (Nat.mul_pos hm hm').ne').mpr hdigits
    have hexponents : e + e' ≤ 2 := add_le_add hu.2 hw.2
    exact isBounded_roundWithAccuracy _ _ (by omega) (by omega) (by decide)

end ReplayCalculator.Binary64
