import Mathlib.Tactic.Lemma
import ReplayCalculator.Decimal.Binary64

/-!
# The datum of a rank

A number is made from a sign and a rank by way of its bits, and the logical model of floating-point
numbers takes bits apart into a sign, an exponent and a mantissa before it puts them together again.
For a finite number nothing is lost on this way (`pack_unpack`), so that the number with a given
sign and rank has this sign and this rank (`datum_ofRank`). Nor is anything lost for the two
infinities (`datum_ofRank_infinityRank`).
-/

namespace ReplayCalculator.Binary64

open Float.Model Float.Model.UnpackedFloat

/-! ### Fields of the bits -/

/-- The leading one of a normal number stands in front of its mantissa. -/
lemma toNat_one_append (m : BitVec 52) : (1#1 ++ m).toNat = binade + m.toNat := by
  rw [BitVec.toNat_append, ← Nat.shiftLeft_add_eq_or_of_lt m.isLt, Nat.shiftLeft_eq]
  rfl

/-- What the logical model takes for the number with a given sign, exponent and mantissa. -/
def ofFields (s : Sign) (e : BitVec 11) (m : BitVec 52) : UnpackedFloat :=
  if e = -1#11 then
    if m = 0#52 then .infinity s else .notANumber
  else if e = 0#11 then
    if h : m = 0#52 then .zero s
    else
      .finite s m.toNat ((e.toNat : Int) - 1075 + 1)
        (Nat.pos_of_ne_zero fun hnone => h (BitVec.eq_of_toNat_eq hnone))
  else
    .finite s (1#1 ++ m).toNat ((e.toNat : Int) - 1075) (by
      rw [toNat_one_append]
      exact Nat.add_pos_left (by decide) _)

/-- Unless all bits of the exponent are set, the number is finite. -/
lemma isFinite_ofFields (s : Sign) {e : BitVec 11} (m : BitVec 52) (he : e ≠ -1#11) :
    (ofFields s e m).isFinite = true ∧ (ofFields s e m).isNaN = false := by
  rw [ofFields, if_neg he]
  by_cases hsmall : e = 0#11
  · rw [if_pos hsmall]
    by_cases hzero : m = 0#52
    · rw [dif_pos hzero]
      exact ⟨rfl, rfl⟩
    · rw [dif_neg hzero]
      exact ⟨rfl, rfl⟩
  · rw [if_neg hsmall]
    exact ⟨rfl, rfl⟩

/-- Bits are taken apart by their fields. -/
lemma unpack_eq_ofFields {b : BitVec Format.binary64.numBits} {s : Sign} {e : BitVec 11}
    {m : BitVec 52} (hs : Sign.ofBitVec (unpackSign b) = s) (he : unpackExponent b = e)
    (hm : unpackMantissa b = m) : UnpackedFloat.unpack .binary64 b = ofFields s e m := by
  subst hs he hm
  rfl

/-- The sign is put in front. -/
lemma ofBitVec_unpackSign (s : Sign) (e : BitVec 11) (m : BitVec 52) :
    Sign.ofBitVec (unpackSign (packComponents .binary64 s e m)) = s := by
  have hfirst : unpackSign (packComponents .binary64 s e m) = s.toBitVec := by
    show (s.toBitVec ++ e ++ m).extractLsb' 63 1 = s.toBitVec
    rw [BitVec.extractLsb'_append_eq_of_le (by decide),
      BitVec.extractLsb'_append_eq_of_le (by decide)]
    exact BitVec.extractLsb'_eq_self
  rw [hfirst]
  cases s <;> rfl

/-- Fields that are put together are taken apart again. -/
lemma unpack_packComponents (s : Sign) (e : BitVec 11) (m : BitVec 52) :
    UnpackedFloat.unpack .binary64 (packComponents .binary64 s e m) = ofFields s e m :=
  unpack_eq_ofFields (ofBitVec_unpackSign s e m) unpackExponent_packComponents
    unpackMantissa_packComponents

/-- The fields of a finite number: those of infinity if it is too large, and otherwise an exponent
only if the mantissa has its leading one. -/
lemma pack_finite (s : Sign) {m : Nat} {e : Int} (hm : 0 < m) :
    UnpackedFloat.pack .binary64 (.finite s m e hm) =
      if 2048 ≤ (e + 1023 + 52).toNat + 1 then packedInfinity .binary64 s
      else if m.log2 + 1 = 53 then
        packComponents .binary64 s (BitVec.ofNat 11 (e + 1023 + 52).toNat) (BitVec.ofNat 52 m)
      else packComponents .binary64 s (0#11) (BitVec.ofNat 52 m) := rfl

/-! ### Bits of a finite number -/

/-- The bits of a finite number are taken apart and put together again. -/
lemma pack_unpack (s : Sign) {e : BitVec 11} (m : BitVec 52) (he : e ≠ -1#11) :
    UnpackedFloat.pack .binary64 (UnpackedFloat.unpack .binary64 (packComponents .binary64 s e m)) =
      packComponents .binary64 s e m := by
  have hbinade : binade = 4503599627370496 := rfl
  have hmantissa := m.isLt
  have hexponent : e.toNat ≠ 2047 := by
    intro htop
    exact he (BitVec.eq_of_toNat_eq htop)
  have hlt := e.isLt
  rw [unpack_packComponents, ofFields, if_neg he]
  by_cases hsmall : e = 0#11
  · subst hsmall
    rw [if_pos rfl]
    by_cases hzero : m = 0#52
    · subst hzero
      rw [dif_pos rfl]
      rfl
    · -- A subnormal number has no leading one.
      have hpos : m.toNat ≠ 0 := fun hnone => hzero (BitVec.eq_of_toNat_eq hnone)
      have hlog : m.toNat.log2 < 52 := (Nat.log2_lt hpos).mpr hmantissa
      rw [dif_neg hzero, pack_finite, if_neg (by decide), if_neg (by omega), BitVec.ofNat_toNat,
        BitVec.setWidth_eq]
  · rw [if_neg hsmall, pack_finite]
    have hlog : (1#1 ++ m).toNat.log2 = 52 := by
      rw [toNat_one_append]
      have hlow := (Nat.le_log2 (n := binade + m.toNat) (k := 52) (by omega)).mpr (by omega)
      have hhigh := (Nat.log2_lt (n := binade + m.toNat) (k := 53) (by omega)).mpr (by omega)
      omega
    have hexp : ((e.toNat : Int) - 1075 + 1023 + 52).toNat = e.toNat := by omega
    have hmant : BitVec.ofNat 52 (1#1 ++ m).toNat = m := by
      apply BitVec.eq_of_toNat_eq
      rw [toNat_one_append, BitVec.toNat_ofNat]
      omega
    rw [hexp, if_neg (by omega), if_pos (by omega), BitVec.ofNat_toNat, BitVec.setWidth_eq, hmant]

/-- Sign, exponent and mantissa in their places. -/
lemma toNat_packComponents (s : Sign) (e : BitVec 11) (m : BitVec 52) :
    (packComponents .binary64 s e m).toNat =
      s.toBitVec.toNat * signBit + e.toNat * binade + m.toNat := by
  have hexponent := e.isLt
  have hmantissa := m.isLt
  have hsign : signBit = 2 ^ 11 * 2 ^ 52 := rfl
  have hbinade : binade = 2 ^ 52 := rfl
  rw [packComponents, BitVec.toNat_append, ← Nat.shiftLeft_add_eq_or_of_lt m.isLt,
    BitVec.toNat_append, ← Nat.shiftLeft_add_eq_or_of_lt e.isLt, Nat.shiftLeft_eq, Nat.shiftLeft_eq,
    hsign, hbinade, Nat.add_mul, Nat.mul_assoc]

/-! ### Signs and ranks -/

/-- The bits of the number with a given sign and a finite rank. -/
lemma toNat_toBits_ofRank (negative : Bool) {r : Nat} (hr : r < infinityRank) :
    (ofRank negative r).toBits.toNat = (if negative then signBit else 0) + r := by
  have hbinade : binade = 4503599627370496 := rfl
  have hinfinity : infinityRank = 9218868437227405312 := rfl
  have hsignBit : signBit = 9223372036854775808 := rfl
  have hquotient : r / binade < 2047 := by
    rw [hbinade]
    omega
  obtain ⟨s, hs⟩ : ∃ s : Sign, s.toBitVec.toNat * signBit = if negative then signBit else 0 := by
    cases negative with
    | true => exact ⟨.negative, by simp [Sign.toBitVec]⟩
    | false => exact ⟨.positive, by simp [Sign.toBitVec]⟩
  have hexponent : (BitVec.ofNat 11 (r / binade)).toNat = r / binade :=
    Nat.mod_eq_of_lt (by omega)
  have hmantissa : (BitVec.ofNat 52 (r % binade)).toNat = r % binade :=
    Nat.mod_eq_of_lt (Nat.mod_lt r (by decide))
  have hvalue : (packComponents .binary64 s (BitVec.ofNat 11 (r / binade))
      (BitVec.ofNat 52 (r % binade))).toNat = (if negative then signBit else 0) + r := by
    have hsplit := Nat.div_add_mod' r binade
    rw [toNat_packComponents, hexponent, hmantissa, hs]
    omega
  have hbits : (UInt64.ofNat ((if negative then signBit else 0) + r)).toBitVec =
      packComponents .binary64 s (BitVec.ofNat 11 (r / binade)) (BitVec.ofNat 52 (r % binade)) := by
    have hlt : (if negative then signBit else 0) + r < 2 ^ 64 := by
      split <;> omega
    apply BitVec.eq_of_toNat_eq
    rw [hvalue]
    exact Nat.mod_eq_of_lt hlt
  have hfinite : BitVec.ofNat 11 (r / binade) ≠ -1#11 := by
    intro htop
    have hnat := congrArg BitVec.toNat htop
    rw [hexponent] at hnat
    have hones : (-1#11).toNat = 2047 := rfl
    omega
  have hround : (ofRank negative r).toBits.toNat = (UnpackedFloat.pack .binary64
      (UnpackedFloat.unpack .binary64
        (UInt64.ofNat ((if negative then signBit else 0) + r)).toBitVec)).toNat := rfl
  rw [hround, hbits, pack_unpack s _ hfinite, hvalue]

/-- The number with a given sign and a finite rank has this sign and this rank. -/
theorem datum_ofRank (negative : Bool) {r : Nat} (hr : r < infinityRank) :
    datum (ofRank negative r) = .finite negative r := by
  have hbits := toNat_toBits_ofRank negative hr
  have hinfinity : infinityRank < signBit := by decide
  have hrank : rank (ofRank negative r) = r := by
    rw [rank, hbits]
    cases negative with
    | true => exact (Nat.add_mod_left signBit r).trans (Nat.mod_eq_of_lt (by omega))
    | false => exact (congrArg (· % signBit) (Nat.zero_add r)).trans (Nat.mod_eq_of_lt (by omega))
  have hsign : isNegative (ofRank negative r) = negative := by
    rw [isNegative, hbits]
    cases negative with
    | true => exact decide_eq_true (Nat.le_add_right signBit r)
    | false => exact decide_eq_false (by simp; omega)
  rw [datum, hrank, hsign, if_neg (by omega), if_neg (by omega)]

/-- A number with a finite datum has its sign and its rank. -/
lemma of_datum_eq_finite {v : Float} {negative : Bool} {r : Nat}
    (h : datum v = .finite negative r) :
    isNegative v = negative ∧ rank v = r ∧ r < infinityRank := by
  unfold datum at h
  split at h
  · cases h
  · split at h
    · cases h
    · cases h
      exact ⟨rfl, rfl, by omega⟩

/-- A number with an infinite datum has its sign and the rank of infinity. -/
lemma of_datum_eq_infinite {v : Float} {negative : Bool} (h : datum v = .infinite negative) :
    isNegative v = negative ∧ rank v = infinityRank := by
  unfold datum at h
  split at h
  · cases h
  · split at h
    · rename_i hrank
      cases h
      exact ⟨rfl, hrank⟩
    · cases h

/-- The number with a sign and the rank of infinity is infinite and has this sign. -/
lemma datum_ofRank_infinityRank (negative : Bool) :
    datum (ofRank negative infinityRank) = .infinite negative := by
  cases negative with
  | true => decide +kernel
  | false => decide +kernel

/-- The number with a sign and a rank up to that of infinity has this sign. -/
lemma isNegative_ofRank (negative : Bool) {r : Nat} (h : r ≤ infinityRank) :
    isNegative (ofRank negative r) = negative := by
  rcases Nat.lt_or_eq_of_le h with hlt | rfl
  · exact (of_datum_eq_finite (datum_ofRank negative hlt)).1
  · exact (of_datum_eq_infinite (datum_ofRank_infinityRank negative)).1

/-- The number with a sign and a rank up to that of infinity has this rank. -/
lemma rank_ofRank (negative : Bool) {r : Nat} (h : r ≤ infinityRank) :
    rank (ofRank negative r) = r := by
  rcases Nat.lt_or_eq_of_le h with hlt | rfl
  · exact (of_datum_eq_finite (datum_ofRank negative hlt)).2.1
  · exact (of_datum_eq_infinite (datum_ofRank_infinityRank negative)).2

end ReplayCalculator.Binary64
