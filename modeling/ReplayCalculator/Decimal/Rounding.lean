/-!
# Rounding a quotient to the nearest whole number

Every decimal and every binary text rule of this library rests on one rounding: a quotient of
natural numbers goes to the nearest natural number, and a quotient that lies exactly between two
of them goes to the even one.

* `roundHalfEven_le`, `le_roundHalfEven`: the result is within half a unit of the quotient.
* `roundHalfEven_mul`: a whole quotient is its own rounding.
-/

namespace ReplayCalculator

/-- The natural number nearest to `num / den`; a quotient halfway between two goes to the even
one. -/
def roundHalfEven (num den : Nat) : Nat :=
  let q := num / den
  let r := num % den
  if 2 * r < den then q else if den < 2 * r then q + 1 else q + q % 2

theorem roundHalfEven_eq (num den : Nat) :
    roundHalfEven num den =
      if 2 * (num % den) < den then num / den
      else if den < 2 * (num % den) then num / den + 1
      else num / den + num / den % 2 := rfl

/-- The rounding is one of the two neighbours of the quotient. -/
theorem roundHalfEven_eq_or (num den : Nat) :
    roundHalfEven num den = num / den ∨ roundHalfEven num den = num / den + 1 := by
  rw [roundHalfEven_eq]
  split
  · exact .inl rfl
  · split
    · exact .inr rfl
    · omega

theorem roundHalfEven_mul (n : Nat) {den : Nat} (h : 0 < den) :
    roundHalfEven (n * den) den = n := by
  rw [roundHalfEven_eq, Nat.mul_mod_left, Nat.mul_div_cancel n h, if_pos (by omega)]

@[simp] theorem roundHalfEven_zero (den : Nat) : roundHalfEven 0 den = 0 := by
  simp only [roundHalfEven_eq, Nat.zero_mod, Nat.zero_div]
  split
  · rfl
  · split <;> omega

/-- The rounding exceeds the quotient by at most half a unit. -/
theorem roundHalfEven_le (num den : Nat) :
    2 * (den * roundHalfEven num den) ≤ 2 * num + den := by
  have h := Nat.div_add_mod num den
  rw [roundHalfEven_eq]
  split
  · omega
  · split
    · rw [Nat.mul_add]; omega
    · have : num / den % 2 = 0 ∨ num / den % 2 = 1 := by omega
      rcases this with e | e <;> rw [e, Nat.mul_add] <;> omega

/-- The rounding falls short of the quotient by at most half a unit. -/
theorem le_roundHalfEven (num : Nat) {den : Nat} (hd : 0 < den) :
    2 * num ≤ 2 * (den * roundHalfEven num den) + den := by
  have h := Nat.div_add_mod num den
  have hlt := Nat.mod_lt num hd
  rw [roundHalfEven_eq]
  split
  · omega
  · split
    · rw [Nat.mul_add]; omega
    · have : num / den % 2 = 0 ∨ num / den % 2 = 1 := by omega
      rcases this with e | e <;> rw [e, Nat.mul_add] <;> omega

end ReplayCalculator
