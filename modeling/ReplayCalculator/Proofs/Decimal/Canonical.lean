import Mathlib.Data.List.Induction
import ReplayCalculator.Proofs.Decimal.NearestEven
import ReplayCalculator.Proofs.Decimal.Shown
import ReplayCalculator.Proofs.Decimal.Value

/-!
# The shown text of a number in canonical form

The shown text of a finite number is its exact value, rounded to six decimals. What that is for any
rational number `q` is said by `Canonical q`: the nearest count of millionths, of two equally near
ones the even one, in digits of which none can be left out.

* `Canonical.chars_eq`: there is only one such text.
* `Canonical.isTidy`: it does not end in a point or in a zero of the fraction, it is not `-0`, and
  it has no exponent.
* `Number.shown_canonical`: the shown text is the one of the exact value, and it is what is left of
  the text with all six decimals without the zeros at its end, the point before them and the sign of
  zero.
-/

namespace ReplayCalculator

open Decimal Numeral

/-! ### Rows of digits -/

/-- The characters of the ten digits. -/
lemma toNat_of_isDigit {c : Char} (h : isDigit c = true) : 48 ≤ c.toNat ∧ c.toNat ≤ 57 := by
  rw [isDigit, Bool.and_eq_true, decide_eq_true_eq, decide_eq_true_eq] at h
  exact h

/-- Rows of the same length with the same value are the same. -/
lemma Decimal.IsRow.eq_of_value_eq {a b : List Char} (ha : IsRow a) (hb : IsRow b)
    (hlength : a.length = b.length) (hvalue : Nat.ofDigitChars 10 a 0 = Nat.ofDigitChars 10 b 0) :
    a = b := by
  -- The last digit is what is left of the value by ten.
  induction a using List.reverseRecOn generalizing b with
  | nil => exact (List.length_eq_zero_iff.mp hlength.symm).symm
  | append_singleton a c ih =>
    rcases List.eq_nil_or_concat b with rfl | ⟨b, d, rfl⟩
    · rw [List.length_append] at hlength
      cases hlength
    · rw [List.concat_eq_append] at *
      have hlength' : a.length = b.length := by simpa using hlength
      rw [Nat.ofDigitChars_append, Nat.ofDigitChars_append, Nat.ofDigitChars_cons,
        Nat.ofDigitChars_cons, Nat.ofDigitChars_nil, Nat.ofDigitChars_nil] at hvalue
      have hzero : '0'.toNat = 48 := rfl
      have hc := toNat_of_isDigit (ha c (List.mem_append_right _ List.mem_cons_self))
      have hd := toNat_of_isDigit (hb d (List.mem_append_right _ List.mem_cons_self))
      have hlast : c = d := Char.toNat_inj.mp (by omega)
      have hfront : a = b := by
        refine ih (fun x hx => ha x (List.mem_append_left _ hx))
          (fun x hx => hb x (List.mem_append_left _ hx)) hlength' ?_
        omega
      rw [hfront, hlast]

/-- There is no point among digits. -/
lemma Decimal.IsRow.point_notMem {ds : List Char} (h : IsRow ds) : '.' ∉ ds := by
  intro hmem
  cases h '.' hmem

/-- Digits do not end in a point. -/
lemma getLast?_append_ne_point {ds : List Char} (h : IsRow ds) (hne : ds ≠ []) (front : List Char) :
    (front ++ ds).getLast? ≠ some '.' := by
  rw [List.getLast?_append_of_ne_nil _ hne]
  intro hlast
  exact h.point_notMem (List.mem_of_getLast? hlast)

/-! ### The end of a text -/

/-- The characters without those at their end that are equal to `c`. -/
def dropTrailing (c : Char) (cs : List Char) : List Char := (cs.reverse.dropWhile (· == c)).reverse

/-- A text with another character at its end is what is left. -/
lemma dropTrailing_append_replicate {c : Char} {cs : List Char} (h : cs.getLast? ≠ some c) (z : ℕ) :
    dropTrailing c (cs ++ List.replicate z c) = cs := by
  have hall : ∀ a ∈ List.replicate z c, (a == c) = true := fun a ha => by
    rw [List.eq_of_mem_replicate ha]
    exact beq_self_eq_true c
  rw [dropTrailing, List.reverse_append, List.reverse_replicate, List.dropWhile_append_of_pos hall]
  rw [← List.head?_reverse] at h
  cases hcs : cs.reverse with
  | nil => exact (List.reverse_eq_nil_iff.mp hcs).symm
  | cons a as =>
    rw [hcs, List.head?_cons] at h
    have hne : (a == c) = false := beq_false_of_ne fun heq => h (congrArg some heq)
    rw [List.dropWhile_cons, hne, ← hcs]
    exact List.reverse_reverse cs

/-- A text with another character at its end stays. -/
lemma dropTrailing_eq_self {c : Char} {cs : List Char} (h : cs.getLast? ≠ some c) :
    dropTrailing c cs = cs := by
  have hnone := dropTrailing_append_replicate h 0
  rwa [List.replicate_zero, List.append_nil] at hnone

/-- No character of that kind is left at the end. -/
lemma getLast?_dropTrailing (c : Char) (cs : List Char) :
    (dropTrailing c cs).getLast? ≠ some c := by
  have hhead := List.head?_dropWhile_not (· == c) cs.reverse
  rw [dropTrailing, List.getLast?_reverse]
  intro heq
  rw [heq] at hhead
  simp at hhead

/-! ### Canonical form -/

/-- The digits of a natural number in base ten. The first of them is no zero unless there is no
other one. -/
structure IsWhole (ds : List Char) (n : ℕ) : Prop where
  isRow : IsRow ds
  ne_nil : ds ≠ []
  eq_of_head : ds.head? = some '0' → ds = ['0']
  value : Nat.ofDigitChars 10 ds 0 = n

/-- What is left of the digits of a natural number, padded with zeros to a width, without the zeros
at their end. -/
structure IsFraction (width : ℕ) (ds : List Char) (n : ℕ) : Prop where
  isRow : IsRow ds
  last_ne : ds.getLast? ≠ some '0'
  zeros : ∃ z, (ds ++ List.replicate z '0').length = width ∧
    Nat.ofDigitChars 10 (ds ++ List.replicate z '0') 0 = n

/-- There is only one way to write a natural number without zeros in front. -/
lemma IsWhole.eq {a b : List Char} {n : ℕ} (ha : IsWhole a n) (hb : IsWhole b n) : a = b := by
  wlog hlength : a.length ≤ b.length generalizing a b
  · exact (this hb ha (Nat.le_of_not_le hlength)).symm
  obtain ⟨z, hz⟩ := Nat.exists_eq_add_of_le' hlength
  have hpadded : List.replicate z '0' ++ a = b := by
    refine ((isRow_replicate z).append ha.isRow).eq_of_value_eq hb.isRow ?_ ?_
    · rw [List.length_append, List.length_replicate, hz]
    · rw [Nat.ofDigitChars_append, Nat.ofDigitChars_replicate_zero, Nat.mul_zero,
        ha.value, hb.value]
  cases z with
  | zero => exact hpadded
  | succ z =>
    have hhead : b.head? = some '0' := by rw [← hpadded, List.replicate_succ]; rfl
    rw [hb.eq_of_head hhead, List.length_singleton] at hz
    have hempty : a.length = 0 := by omega
    exact absurd (List.length_eq_zero_iff.mp hempty) ha.ne_nil

/-- There is only one way to write a fraction without zeros at the end. -/
lemma IsFraction.eq {width n : ℕ} {a b : List Char} (ha : IsFraction width a n)
    (hb : IsFraction width b n) : a = b := by
  obtain ⟨y, halength, havalue⟩ := ha.zeros
  obtain ⟨z, hblength, hbvalue⟩ := hb.zeros
  have hall : a ++ List.replicate y '0' = b ++ List.replicate z '0' :=
    (ha.isRow.append (isRow_replicate y)).eq_of_value_eq (hb.isRow.append (isRow_replicate z))
      (halength.trans hblength.symm) (havalue.trans hbvalue.symm)
  calc a = dropTrailing '0' (a ++ List.replicate y '0') :=
        (dropTrailing_append_replicate ha.last_ne y).symm
    _ = dropTrailing '0' (b ++ List.replicate z '0') := by rw [hall]
    _ = b := dropTrailing_append_replicate hb.last_ne z

/-- There are digits of a fraction unless it is zero. -/
lemma IsFraction.ne_nil {width n : ℕ} {ds : List Char} (h : IsFraction width ds n) (hn : n ≠ 0) :
    ds ≠ [] := by
  rintro rfl
  obtain ⟨z, -, hvalue⟩ := h.zeros
  rw [List.nil_append, Nat.ofDigitChars_replicate_zero, Nat.mul_zero] at hvalue
  exact hn hvalue.symm

/-- A rational number rounded to six decimals: the count of its millionths and the digits that are
written. -/
structure Canonical (q : ℚ) where
  millionths : ℕ
  whole : List Char
  fraction : List Char
  isNearestEven : IsNearestEven millionths (|q| * 10 ^ 6)
  isWhole : IsWhole whole (millionths / 10 ^ 6)
  isFraction : millionths % 10 ^ 6 ≠ 0 → IsFraction 6 fraction (millionths % 10 ^ 6)

/-- The text of a number in canonical form. A number that is rounded to zero has no sign, and a
whole number has no point. -/
def Canonical.chars {q : ℚ} (t : Canonical q) : List Char :=
  (if q < 0 ∧ t.millionths ≠ 0 then ['-'] else []) ++ t.whole ++
    if t.millionths % 10 ^ 6 = 0 then [] else '.' :: t.fraction

/-- A text of digits, a point and a sign, with nothing in it that could be left out. -/
structure IsTidy (cs : List Char) : Prop where
  plain : ∀ c ∈ cs, Numeral.isPlain c = true ∨ c = '-'
  last_ne_point : cs.getLast? ≠ some '.'
  last_ne_zero : '.' ∈ cs → cs.getLast? ≠ some '0'
  ne_minus_zero : cs ≠ ['-', '0']

namespace Canonical

variable {q : ℚ} (t : Canonical q)

/-- The text of a whole number in canonical form ends in its digits. -/
lemma chars_of_dvd (h : t.millionths % 10 ^ 6 = 0) :
    t.chars = (if q < 0 ∧ t.millionths ≠ 0 then ['-'] else []) ++ t.whole := by
  rw [chars, if_pos h, List.append_nil]

/-- The text of another number in canonical form ends in its fraction. -/
lemma chars_of_not_dvd (h : t.millionths % 10 ^ 6 ≠ 0) :
    t.chars = (if q < 0 ∧ t.millionths ≠ 0 then ['-'] else []) ++ t.whole ++ '.' :: t.fraction := by
  rw [chars, if_neg h]

/-- There is only one canonical form. -/
theorem chars_eq (s t : Canonical q) : s.chars = t.chars := by
  have hcount : s.millionths = t.millionths :=
    Nat.cast_injective (s.isNearestEven.eq t.isNearestEven)
  have hwhole : s.whole = t.whole := by
    have hs := s.isWhole
    rw [hcount] at hs
    exact hs.eq t.isWhole
  rw [chars, chars, hcount, hwhole]
  by_cases hmod : t.millionths % 10 ^ 6 = 0
  · rw [if_pos hmod, if_pos hmod]
  · have hs := s.isFraction
    rw [hcount] at hs
    rw [if_neg hmod, if_neg hmod, (hs hmod).eq (t.isFraction hmod)]

/-- The text has no exponent. -/
lemma plain_chars : ∀ c ∈ t.chars, Numeral.isPlain c = true ∨ c = '-' := by
  have hrow : ∀ {ds : List Char}, IsRow ds → ∀ c ∈ ds, Numeral.isPlain c = true := fun h c hc =>
    Bool.or_eq_true_iff.mpr (Or.inl (h c hc))
  intro c hc
  rw [chars, List.append_assoc, List.mem_append, List.mem_append] at hc
  rcases hc with hsign | hwhole | hfraction
  · split at hsign
    · exact Or.inr (List.mem_singleton.mp hsign)
    · cases hsign
  · exact Or.inl (hrow t.isWhole.isRow c hwhole)
  · split at hfraction
    · cases hfraction
    · rename_i hmod
      rcases List.mem_cons.mp hfraction with rfl | hmem
      · exact Or.inl rfl
      · exact Or.inl (hrow (t.isFraction hmod).isRow c hmem)

/-- A whole number has no point. -/
lemma point_notMem_chars (h : t.millionths % 10 ^ 6 = 0) : '.' ∉ t.chars := by
  rw [t.chars_of_dvd h, List.mem_append]
  rintro (hsign | hwhole)
  · split at hsign
    · cases List.mem_singleton.mp hsign
    · cases hsign
  · exact t.isWhole.isRow.point_notMem hwhole

/-- The text ends in a digit, and behind a point this digit is no zero. -/
lemma getLast?_chars :
    ∃ c, t.chars.getLast? = some c ∧ isDigit c = true ∧ ('.' ∈ t.chars → c ≠ '0') := by
  by_cases hmod : t.millionths % 10 ^ 6 = 0
  · have hne := t.isWhole.ne_nil
    refine ⟨t.whole.getLast hne, ?_, t.isWhole.isRow _ (List.getLast_mem hne), ?_⟩
    · rw [t.chars_of_dvd hmod, List.getLast?_append_of_ne_nil _ hne]
      exact List.getLast?_eq_some_getLast hne
    · intro hpoint
      exact absurd hpoint (t.point_notMem_chars hmod)
  · have hfraction := t.isFraction hmod
    have hne := hfraction.ne_nil hmod
    have hlast := List.getLast?_eq_some_getLast hne
    refine ⟨t.fraction.getLast hne, ?_, hfraction.isRow _ (List.getLast_mem hne), ?_⟩
    · rw [t.chars_of_not_dvd hmod, ← List.concat_append, List.getLast?_append_of_ne_nil _ hne]
      exact hlast
    · intro _ hzero
      rw [hzero] at hlast
      exact hfraction.last_ne hlast

/-- Zero has no sign. -/
lemma chars_ne_minus_zero : t.chars ≠ ['-', '0'] := by
  intro heq
  have hmod : t.millionths % 10 ^ 6 = 0 := by
    by_contra hmod
    have hpoint : '.' ∈ t.chars := by
      rw [t.chars_of_not_dvd hmod]
      exact List.mem_append_right _ List.mem_cons_self
    rw [heq] at hpoint
    revert hpoint
    decide
  rw [t.chars_of_dvd hmod] at heq
  split at heq
  · rename_i hsign
    have hwhole : t.whole = ['0'] := (List.cons_eq_cons.mp heq).2
    have hvalue := t.isWhole.value
    rw [hwhole] at hvalue
    have hdiv : t.millionths / 10 ^ 6 = 0 := hvalue.symm
    omega
  · have hwhole : t.whole = ['-', '0'] := heq
    have hdigit := t.isWhole.isRow '-' (by rw [hwhole]; exact List.mem_cons_self)
    cases hdigit

/-- Nothing could be left out of a text in canonical form. -/
theorem isTidy : IsTidy t.chars := by
  obtain ⟨c, hlast, hdigit, hzero⟩ := t.getLast?_chars
  constructor
  · exact t.plain_chars
  · rw [hlast]
    rintro ⟨rfl⟩
    cases hdigit
  · intro hpoint
    rw [hlast]
    rintro ⟨rfl⟩
    exact hzero hpoint rfl
  · exact t.chars_ne_minus_zero

end Canonical

/-! ### All places -/

/-- A count of places in digits, all of them. -/
def allPlaces (places n : ℕ) : List Char :=
  digitChars (n / powTen places) ++ '.' :: padded places (digitChars (n % powTen places))

/-- A text without the zeros at its end, the point that is left at its end and the sign of zero. -/
def stripped (cs : List Char) : List Char :=
  let rest := dropTrailing '.' (dropTrailing '0' cs)
  if rest = ['-', '0'] then ['0'] else rest

/-- The digits of zero, padded. -/
lemma padded_zero {width : ℕ} (hwidth : 0 < width) :
    padded width (digitChars 0) = List.replicate width '0' := by
  have hdigits : digitChars 0 = ['0'] := rfl
  obtain ⟨w, rfl⟩ := Nat.exists_eq_add_one.mpr hwidth
  rw [padded, hdigits, List.replicate_succ']
  rfl

/-- Only one digit is a zero with nothing behind it, and no other digits begin with one. -/
lemma digitChars_of_head? {n : ℕ} (h : (digitChars n).head? = some '0') : digitChars n = ['0'] := by
  induction n using Nat.strong_induction_on with
  | _ n ih =>
    rcases Nat.lt_or_ge n 10 with hsmall | hlarge
    · rw [digitChars, Nat.toDigits_of_lt_base hsmall] at h ⊢
      rw [Option.some_inj.mp h]
    · -- The first digit is also that of the number without its last digit, which is not zero.
      have hlast : digitChars n = digitChars (n / 10) ++ [(n % 10).digitChar] :=
        Nat.toDigits_of_base_le (by decide) hlarge
      have hne : digitChars (n / 10) ≠ [] := Nat.toDigits_ne_nil
      rw [hlast, List.head?_append_of_ne_nil _ hne] at h
      have hzero := ih (n / 10) (by omega) h
      have hvalue : Nat.ofDigitChars 10 (digitChars (n / 10)) 0 = n / 10 :=
        Nat.ofDigitChars_ten_toDigits
      rw [hzero] at hvalue
      have hdiv : n / 10 = 0 := hvalue.symm
      omega

/-- The digits of a natural number have no zeros in front. -/
lemma isWhole_digitChars (n : ℕ) : IsWhole (digitChars n) n where
  isRow := isRow_digitChars n
  ne_nil := Nat.toDigits_ne_nil
  eq_of_head := digitChars_of_head?
  value := Nat.ofDigitChars_ten_toDigits

/-- The digits of a fraction have no zeros at the end. -/
lemma isFraction_fractionDigits {places n : ℕ} (h : n % powTen places ≠ 0) :
    IsFraction places (fractionDigits places n) (n % powTen places) := by
  obtain ⟨z, hz⟩ := exists_dropTrailingZeros_append (padded places (digitChars (n % powTen places)))
  constructor
  · exact ((isRow_digitChars _).padded places).dropTrailingZeros
  · exact getLast?_dropTrailing '0' _
  · refine ⟨z, ?_, ?_⟩
    · rw [fractionDigits, hz, length_padded_mod h]
    · rw [fractionDigits, hz, ofDigitChars_padded]

/-- Of all places those are left that say something. -/
lemma dropTrailing_allPlaces {places : ℕ} (hplaces : 0 < places) (n : ℕ) (sign : List Char) :
    dropTrailing '.' (dropTrailing '0' (sign ++ allPlaces places n)) =
      sign ++ fixedDigits places n := by
  by_cases hmod : n % powTen places = 0
  · have hlast : (sign ++ digitChars (n / powTen places) ++ ['.']).getLast? ≠ some '0' := by
      rw [List.getLast?_concat]
      decide
    have hwhole := isWhole_digitChars (n / powTen places)
    have hall : sign ++ allPlaces places n =
        sign ++ digitChars (n / powTen places) ++ ['.'] ++ List.replicate places '0' := by
      rw [allPlaces, hmod, padded_zero hplaces]
      simp only [List.append_assoc, List.singleton_append]
    rw [fixedDigits_of_dvd hmod, hall, dropTrailing_append_replicate hlast]
    exact dropTrailing_append_replicate (getLast?_append_ne_point hwhole.isRow hwhole.ne_nil sign) 1
  · have hfraction := isFraction_fractionDigits hmod
    have hne := hfraction.ne_nil hmod
    obtain ⟨z, hz⟩ :=
      exists_dropTrailingZeros_append (padded places (digitChars (n % powTen places)))
    have hall : sign ++ allPlaces places n =
        sign ++ digitChars (n / powTen places) ++ ['.'] ++ fractionDigits places n ++
          List.replicate z '0' := by
      rw [allPlaces, ← hz, ← fractionDigits]
      simp only [List.append_assoc, List.cons_append, List.nil_append]
    have hfixed : sign ++ fixedDigits places n =
        sign ++ digitChars (n / powTen places) ++ ['.'] ++ fractionDigits places n := by
      rw [fixedDigits_of_not_dvd hmod]
      simp only [List.append_assoc, List.singleton_append]
    rw [hall, hfixed, dropTrailing_append_replicate]
    · exact dropTrailing_eq_self (getLast?_append_ne_point hfraction.isRow hne _)
    · rw [List.getLast?_append_of_ne_nil _ hne]
      exact hfraction.last_ne

/-! ### Millionths -/

/-- The exact value of a numeral. -/
def Numeral.value? (text : String) : Option ℚ :=
  let (negative, cs) := splitSign text.toList
  (readDecimal? cs).map fun d => (if negative then -1 else 1) * (d.num / d.den)

/-- The value of a count of places in digits. -/
lemma value?_signed_fixedDigits (negative : Bool) (places n : ℕ) :
    value? (Number.signed negative (fixedDigits places n)) =
      some ((if negative then -1 else 1) * ((n : ℚ) / powTen places)) := by
  obtain ⟨k, hk, digits, hvalue, hread⟩ := readDecimal?_fixedDigits places n
  obtain ⟨hnum, hden⟩ := num_and_den_of_places digits k
  have hpow : powTen (k + (places - k)) = powTen k * powTen (places - k) := Nat.pow_add 10 _ _
  rw [Nat.add_sub_cancel' hk] at hpow
  have hpos : (powTen (places - k) : ℚ) ≠ 0 := Nat.cast_ne_zero.mpr (powTen_pos _).ne'
  rw [value?, splitSign_signed_fixedDigits]
  simp only
  rw [hread, Option.map_some, hnum, hden, ← hvalue, hpow, Nat.cast_mul, Nat.cast_mul,
    mul_div_mul_right _ _ hpos]

section Writing

variable {q : ℚ} {n : ℕ} {negative : Bool}

/-- The canonical form with so many millionths. -/
def Canonical.ofMillionths (h : IsNearestEven n (|q| * 10 ^ 6)) : Canonical q where
  millionths := n
  whole := digitChars (n / 10 ^ 6)
  fraction := fractionDigits 6 n
  isNearestEven := h
  isWhole := isWhole_digitChars _
  isFraction := isFraction_fractionDigits

variable (h : IsNearestEven n (|q| * 10 ^ 6)) (hsign : n ≠ 0 → (negative = true ↔ q < 0))

include hsign in
/-- There is a sign in front of what is below zero and not rounded to zero. -/
lemma sign_iff : (negative && n != 0) = true ↔ q < 0 ∧ n ≠ 0 := by
  rw [Bool.and_eq_true, bne_iff_ne]
  exact and_congr_left hsign

include hsign in
/-- The digits of a count of millionths, with a sign, are a canonical form. -/
lemma toList_signed_fixedDigits :
    (Number.signed (negative && n != 0) (fixedDigits 6 n)).toList =
      (Canonical.ofMillionths h).chars := by
  have hchars : (Canonical.ofMillionths h).chars =
      (if q < 0 ∧ n ≠ 0 then ['-'] else []) ++ fixedDigits 6 n := List.append_assoc _ _ _
  rw [hchars, Number.signed, String.toList_ofList]
  by_cases hneg : q < 0 ∧ n ≠ 0
  · rw [if_pos ((sign_iff hsign).mpr hneg), if_pos hneg]
    rfl
  · rw [if_neg (mt (sign_iff hsign).mp hneg), if_neg hneg]
    rfl

include hsign in
/-- A canonical form is what is left of the text with all places. -/
lemma stripped_allPlaces :
    stripped ((if negative then ['-'] else []) ++ allPlaces 6 n) =
      (Canonical.ofMillionths h).chars := by
  have hne := (Canonical.ofMillionths h).chars_ne_minus_zero
  rw [stripped, dropTrailing_allPlaces (by decide)]
  rw [← toList_signed_fixedDigits h hsign, Number.signed, String.toList_ofList] at hne ⊢
  by_cases hzero : negative = true ∧ n = 0
  · -- Only here the text with all places has a sign that is left out.
    obtain ⟨rfl, rfl⟩ := hzero
    rfl
  · have hrest : (if negative && n != 0 then '-' :: fixedDigits 6 n else fixedDigits 6 n) =
        (if negative then ['-'] else []) ++ fixedDigits 6 n := by
      cases negative with
      | true =>
        have hcount : (n != 0) = true := bne_iff_ne.mpr fun hn => hzero ⟨rfl, hn⟩
        rw [hcount]
        rfl
      | false => rfl
    rw [hrest] at hne ⊢
    exact if_neg hne

include h hsign in
/-- A canonical form is read as a value at most half a millionth away. -/
lemma exists_value?_fixedDigits :
    ∃ r, value? (Number.signed (negative && n != 0) (fixedDigits 6 n)) = some r ∧
      |r - q| ≤ 5 / 10 ^ 7 := by
  have hmillion : (powTen 6 : ℚ) = 10 ^ 6 := by norm_num [powTen]
  have hdist := h.abs_div_sub_le
  rw [Int.cast_natCast] at hdist
  rw [value?_signed_fixedDigits, hmillion]
  refine ⟨_, rfl, ?_⟩
  by_cases hneg : q < 0
  · rw [abs_of_neg hneg] at hdist
    by_cases hn : n = 0
    · rw [hn, Nat.cast_zero, zero_div, zero_sub, neg_neg] at hdist
      rwa [hn, Nat.cast_zero, zero_div, mul_zero, zero_sub, abs_neg]
    · have hflip : -1 * ((n : ℚ) / 10 ^ 6) - q = -((n : ℚ) / 10 ^ 6 - -q) := by ring
      rwa [if_pos ((sign_iff hsign).mpr ⟨hneg, hn⟩), hflip, abs_neg]
  · rw [abs_of_nonneg (not_lt.mp hneg)] at hdist
    rwa [if_neg fun hand => hneg ((sign_iff hsign).mp hand).1, one_mul]

end Writing

/-! ### The shown text -/

namespace Number

open Binary64

variable {v : Float}

/-- The datum of a finite number. -/
lemma datum_of_isFinite (hv : v.isFinite = true) : datum v = .finite (isNegative v) (rank v) := by
  have hlt := isFinite_iff.mp hv
  rw [datum, if_neg (by omega), if_neg (by omega)]

/-- The count of millionths is the nearest one. -/
lemma isNearestEven_placesOf (hv : v.isFinite = true) :
    IsNearestEven (placesOf 6 (rank v) : ℕ) (|value v| * 10 ^ 6) := by
  have hscale : |value v| * 10 ^ 6 = (units (rank v) * powTen 6 : ℕ) / (unitsPerOne : ℚ) := by
    rw [abs_value hv, div_mul_eq_mul_div, Nat.cast_mul]
    rfl
  rw [hscale]
  exact isNearestEven_roundHalfEven _ unitsPerOne_pos

/-- A number that is not rounded to zero is below zero when it has a sign. -/
lemma isNegative_iff_of_placesOf_ne (hv : v.isFinite = true) (hne : placesOf 6 (rank v) ≠ 0) :
    isNegative v = true ↔ value v < 0 := by
  have hrank : rank v ≠ 0 := by
    intro hzero
    rw [hzero, placesOf, units_zero, Nat.zero_mul, roundHalfEven_zero] at hne
    exact hne rfl
  rw [value_neg_iff hv]
  exact (and_iff_left hrank).symm

/-- The shown text of a finite number is its exact value in the one canonical form, rounded to six
decimals, which is what is left of the text with all decimals. Nothing more could be left out of it,
and it is at most half a millionth away from the number. -/
theorem shown_canonical (v : Float) (hv : v.isFinite = true) :
    ∃ t : Canonical (value v), (shown v).toList = t.chars ∧
      (∀ s : Canonical (value v), s.chars = t.chars) ∧
      (shown v).toList =
        stripped ((if isNegative v then ['-'] else []) ++ allPlaces 6 t.millionths) ∧
      IsTidy (shown v).toList ∧
      ∃ q, value? (shown v) = some q ∧ |q - value v| ≤ 5 / 10 ^ 7 := by
  have hnear := isNearestEven_placesOf hv
  have hsign := isNegative_iff_of_placesOf_ne hv
  have hchars := toList_signed_fixedDigits hnear hsign
  refine ⟨.ofMillionths hnear, ?_⟩
  rw [shown_of_finite (datum_of_isFinite hv)]
  refine ⟨hchars, fun s => s.chars_eq _, ?_, ?_, exists_value?_fixedDigits hnear hsign⟩
  · rw [hchars]
    exact (stripped_allPlaces hnear hsign).symm
  · rw [hchars]
    exact (Canonical.ofMillionths hnear).isTidy

/-- A negative number halfway between two millionths: `-1 / 128` is `-7812.5` millionths, and shown
with the even count of them. -/
theorem shown_canonical_of_tie :
    (Float.ofBits 0xBF80000000000000).isFinite = true ∧
      value (Float.ofBits 0xBF80000000000000) = -1 / 128 ∧
      shown (Float.ofBits 0xBF80000000000000) = "-0.007812" ∧
      ∃ t : Canonical (value (Float.ofBits 0xBF80000000000000)),
        (shown (Float.ofBits 0xBF80000000000000)).toList = t.chars := by
  have hfinite : (Float.ofBits 0xBF80000000000000).isFinite = true := by decide +kernel
  obtain ⟨t, ht, -⟩ := shown_canonical (Float.ofBits 0xBF80000000000000) hfinite
  exact ⟨hfinite, by decide +kernel, by decide +kernel, t, ht⟩

end Number

end ReplayCalculator
