import ReplayCalculator.Operation.Table
import ReplayCalculator.Proofs.Decimal.Comparison
import ReplayCalculator.Proofs.Evaluation.Failure

/-!
# What the operations of the calculator reject

A key of the calculator tests its operands with comparisons, before its function is called and once
more by what the function makes of them. Here both are put in terms of what the operands are: zeros,
infinities, numbers below zero. Keys that share a function share a lemma, and `Unacceptable` lists
the rejections of all keys, with the reasons that are given for them.

That nothing else is rejected takes a look at every operation of the table (`standard_unary_cases`,
`standard_binary_cases`).
-/

namespace ReplayCalculator

variable {σ : Type}

/-! ### What the functions reject -/

namespace Arithmetic

open Binary64

variable {x y : Float} {reason : String}

/-- An exponential function rejects the finite operands at which it is infinite. -/
lemma rejection_exponential_iff {exp : Float → Float} :
    Rejection none (exponential exp x) reason ↔
      x.isFinite = true ∧ IsInfinite (exp x) ∧ reason = "result out of range" := by
  rw [← or_reasonOf_eq_some_iff, Option.none_or, exponential, ← isInf_iff]
  split_ifs with h
  · rw [Bool.and_eq_true] at h
    simp [Fault.reasonOf, Fault.reason, h, eq_comm]
  · rw [Bool.and_eq_true] at h
    exact iff_of_false (by simp [Fault.reasonOf]) fun hall => h ⟨hall.2.1, hall.1⟩

/-- A trigonometric function rejects the infinities. -/
lemma rejection_trigonometric_iff {f : Float → Float} :
    Rejection none (trigonometric f x) reason ↔ IsInfinite x ∧ reason = "math domain error" := by
  rw [← or_reasonOf_eq_some_iff, Option.none_or, trigonometric, ← isInf_iff]
  split_ifs with h <;> simp [Fault.reasonOf, Fault.reason, h, eq_comm]

/-- The square root rejects what lies below zero, and its domain does so before its function. -/
lemma rejection_squareRoot_iff :
    Rejection (nonNegative x) (squareRoot x) reason ↔
      IsBelowZero x ∧ reason = "square root of a negative number" := by
  rw [← or_reasonOf_eq_some_iff, nonNegative, squareRoot, ← lt_zero_iff]
  split_ifs with h <;> simp [Fault.reasonOf, h, eq_comm]

/-- A logarithm rejects zero and what lies below it. -/
lemma rejection_logarithm_iff {log : Float → Float} :
    Rejection (positive x) (total (logarithm log) x) reason ↔
      (IsBelowZero x ∨ IsZero x) ∧ reason = "logarithm of a non-positive number" := by
  rw [← or_reasonOf_eq_some_iff, positive, ← le_zero_iff]
  split_ifs with h <;> simp [Fault.reasonOf, total, h, eq_comm]

/-- A division rejects the divisors that are zero. -/
lemma rejection_nonZero_iff {quotient : Float} :
    Rejection (nonZero y) (.ok quotient) reason ↔ IsZero y ∧ reason = "division by zero" := by
  rw [← or_reasonOf_eq_some_iff, nonZero, ← beq_zero_iff]
  split_ifs with h <;> simp [Fault.reasonOf, divisionByZero, h, eq_comm]

/-- A function without faults and without a domain rejects nothing. -/
lemma not_rejection_ok {result : Float} : ¬ Rejection none (.ok result) reason := by
  rintro (h | ⟨-, h⟩ | ⟨-, h⟩) <;> cases h

end Arithmetic

/-! ### The list of rejections -/

namespace Table

open Arithmetic Binary64

/-- `Unacceptable symbol operands reason`: the operation of the calculator with this symbol rejects
these operands for this reason. -/
inductive Unacceptable : String → List Float → String → Prop
  | division (x : Float) {y : Float} (hy : IsZero y) : Unacceptable "÷" [x, y] "division by zero"
  | reciprocal {x : Float} (hx : IsZero x) : Unacceptable "x⁻¹" [x] "division by zero"
  | squareRoot {x : Float} (hx : IsBelowZero x) :
      Unacceptable "√" [x] "square root of a negative number"
  | logarithm {symbol : String} {x : Float} (hsymbol : symbol = "㏑" ∨ symbol = "㏒₁₀")
      (hx : IsBelowZero x ∨ IsZero x) : Unacceptable symbol [x] "logarithm of a non-positive number"
  | trigonometric {symbol : String} {x : Float}
      (hsymbol : symbol = "sin" ∨ symbol = "cos" ∨ symbol = "tan") (hx : IsInfinite x) :
      Unacceptable symbol [x] "math domain error"
  | exponential {symbol : String} {exp : Float → Float} {x : Float}
      (hsymbol : (symbol = "eˣ" ∧ exp = Float.exp) ∨ (symbol = "10ˣ" ∧ exp = Float.pow 10))
      (hx : x.isFinite = true) (hy : IsInfinite (exp x)) :
      Unacceptable symbol [x] "result out of range"

variable {between : Nat → Nat → σ → Nat × σ}

/-- The operations of one operand in the standard table. -/
lemma standard_unary_cases {symbol : String} {f : Unary}
    (hfound : (standard between).get? symbol = some (.unary f)) :
    (symbol = "eˣ" ∧ f = { function := exponential Float.exp }) ∨
      (symbol = "10ˣ" ∧ f = { function := exponential (Float.pow 10) }) ∨
      (symbol = "√" ∧ f = { function := squareRoot, domain := some nonNegative }) ∨
      (symbol = "tan" ∧ f = { function := trigonometric Float.tan }) ∨
      (symbol = "cos" ∧ f = { function := trigonometric Float.cos }) ∨
      (symbol = "sin" ∧ f = { function := trigonometric Float.sin }) ∨
      (symbol = "㏑" ∧
        f = { function := Arithmetic.total (logarithm Float.log), domain := some positive }) ∨
      (symbol = "㏒₁₀" ∧
        f = { function := Arithmetic.total (logarithm Float.log10), domain := some positive }) ∨
      (symbol = "±" ∧ f = { function := Arithmetic.total fun x => -x }) ∨
      (symbol = "x⁻¹" ∧ f = { function := Arithmetic.total (divide 1), domain := some nonZero }) ∨
      (symbol = "x²" ∧ f = { function := Arithmetic.total fun x => x * x }) ∨
      (symbol = "x³" ∧ f = { function := Arithmetic.total fun x => x * x * x }) := by
  have hmem := OrderedMap.get?_eq_some_iff.mp hfound
  simpa only [standard, standardEntries, List.mem_cons, Prod.mk.injEq, Operation.unary.injEq,
    reduceCtorEq, and_false, false_or, or_false, List.not_mem_nil] using hmem

/-- The operations of two operands in the standard table. -/
lemma standard_binary_cases {symbol : String} {f : Binary}
    (hfound : (standard between).get? symbol = some (.binary f)) :
    (symbol = "+" ∧ f = { function := total₂ fun x y => x + y }) ∨
      (symbol = "−" ∧ f = { function := total₂ fun x y => x - y }) ∨
      (symbol = "×" ∧ f = { function := total₂ fun x y => x * y }) ∨
      (symbol = "÷" ∧ f = { function := total₂ divide, domain := some nonZeroDivisor }) := by
  have hmem := OrderedMap.get?_eq_some_iff.mp hfound
  simpa only [standard, standardEntries, List.mem_cons, Prod.mk.injEq, Operation.binary.injEq,
    reduceCtorEq, and_false, false_or, or_false, List.not_mem_nil] using hmem

/-- What an operation of one operand rejects is on the list. -/
lemma unacceptable_of_rejection_unary {symbol : String} {f : Unary} {x : Float} {reason : String}
    (hfound : (standard between).get? symbol = some (.unary f))
    (hreject : Rejection (f.refusal? x) (f.function x) reason) :
    Unacceptable symbol [x] reason := by
  rcases standard_unary_cases hfound with ⟨rfl, rfl⟩ | ⟨rfl, rfl⟩ | ⟨rfl, rfl⟩ | ⟨rfl, rfl⟩ |
    ⟨rfl, rfl⟩ | ⟨rfl, rfl⟩ | ⟨rfl, rfl⟩ | ⟨rfl, rfl⟩ | ⟨rfl, rfl⟩ | ⟨rfl, rfl⟩ | ⟨rfl, rfl⟩ |
    ⟨rfl, rfl⟩
  · obtain ⟨hx, hy, rfl⟩ := rejection_exponential_iff.mp hreject
    exact .exponential (Or.inl ⟨rfl, rfl⟩) hx hy
  · obtain ⟨hx, hy, rfl⟩ := rejection_exponential_iff.mp hreject
    exact .exponential (Or.inr ⟨rfl, rfl⟩) hx hy
  · obtain ⟨hx, rfl⟩ := rejection_squareRoot_iff.mp hreject
    exact .squareRoot hx
  · obtain ⟨hx, rfl⟩ := rejection_trigonometric_iff.mp hreject
    exact .trigonometric (by decide) hx
  · obtain ⟨hx, rfl⟩ := rejection_trigonometric_iff.mp hreject
    exact .trigonometric (by decide) hx
  · obtain ⟨hx, rfl⟩ := rejection_trigonometric_iff.mp hreject
    exact .trigonometric (by decide) hx
  · obtain ⟨hx, rfl⟩ := rejection_logarithm_iff.mp hreject
    exact .logarithm (by decide) hx
  · obtain ⟨hx, rfl⟩ := rejection_logarithm_iff.mp hreject
    exact .logarithm (by decide) hx
  · exact absurd hreject not_rejection_ok
  · obtain ⟨hx, rfl⟩ := rejection_nonZero_iff.mp hreject
    exact .reciprocal hx
  · exact absurd hreject not_rejection_ok
  · exact absurd hreject not_rejection_ok

/-- What an operation of two operands rejects is on the list. -/
lemma unacceptable_of_rejection_binary {symbol : String} {f : Binary} {x y : Float}
    {reason : String} (hfound : (standard between).get? symbol = some (.binary f))
    (hreject : Rejection (f.refusal? x y) (f.function x y) reason) :
    Unacceptable symbol [x, y] reason := by
  rcases standard_binary_cases hfound with ⟨rfl, rfl⟩ | ⟨rfl, rfl⟩ | ⟨rfl, rfl⟩ | ⟨rfl, rfl⟩
  · exact absurd hreject not_rejection_ok
  · exact absurd hreject not_rejection_ok
  · exact absurd hreject not_rejection_ok
  · obtain ⟨hy, rfl⟩ := rejection_nonZero_iff.mp hreject
    exact .division x hy

/-- Only the two divisions have the reason of a division by zero. -/
lemma Unacceptable.ofReason_eq_divisionByZero_iff {symbol : String} {operands : List Float}
    {reason : String} (h : Unacceptable symbol operands reason) :
    ErrorKind.ofReason reason = .divisionByZero ↔ symbol = "÷" ∨ symbol = "x⁻¹" := by
  rcases h with _ | _ | _ | ⟨rfl | rfl, -⟩ | ⟨rfl | rfl | rfl, -⟩ |
    ⟨⟨rfl, -⟩ | ⟨rfl, -⟩, -, -⟩ <;> decide

/-- What is not a number is rejected neither as the one operand nor as the second of two. -/
lemma Unacceptable.datum_getLast_ne {symbol : String} {operands : List Float} {reason : String}
    (h : Unacceptable symbol operands reason) :
    ∀ x ∈ operands.getLast?, datum x ≠ .notANumber := by
  rcases h with ⟨x, hy⟩ | hx | hx | ⟨-, hx⟩ | ⟨-, hx⟩ | ⟨-, hx, -⟩ <;>
    rintro _ ⟨⟩ hnan <;> obtain ⟨hzero, hbelow, hinfinite, hfinite⟩ := of_datum_eq_notANumber hnan
  · exact hzero hy
  · exact hzero hx
  · exact hbelow hx
  · exact hx.elim hbelow hzero
  · exact hinfinite hx
  · exact hfinite hx

end Table

end ReplayCalculator
