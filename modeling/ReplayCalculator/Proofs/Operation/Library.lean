import ReplayCalculator.Operation.Feed
import ReplayCalculator.Proofs.Decimal.Range
import ReplayCalculator.Proofs.Operation.Rejection

/-!
# Operations that leave the finite numbers

Seven keys of the calculator have no guard against results that are too large: the four of
arithmetic, the reciprocal, the square and the cube. All others give finite results for finite
operands, or fail. For the exponential, trigonometric and logarithmic functions this depends on the
mathematics library, whose functions are not described by their definitions. They are taken as a
parameter here (`Table.standardWith`), and `Library.IsRegular` says what is relied on.

The main statement `confined_standardWith` holds of the calculator with every such library, and with
every source that draws within the bounds that it is given.
-/

namespace ReplayCalculator

open Arithmetic Binary64

/-! ### The mathematics library -/

/-- The functions of a mathematics library that keys of the calculator stand for. -/
structure Library where
  exp : Float → Float
  powTen : Float → Float
  tan : Float → Float
  cos : Float → Float
  sin : Float → Float
  log : Float → Float
  log10 : Float → Float

namespace Library

/-- The library of the machine. -/
def native : Library where
  exp := Float.exp
  powTen := Float.pow 10
  tan := Float.tan
  cos := Float.cos
  sin := Float.sin
  log := Float.log
  log10 := Float.log10

/-- The values of the functions at finite arguments: a power may be too large, but it is a number;
the trigonometric functions have finite values, and the logarithms of positive numbers are
finite. -/
structure IsRegular (lib : Library) : Prop where
  exp : ∀ x, x.isFinite = true → datum (lib.exp x) ≠ .notANumber
  powTen : ∀ x, x.isFinite = true → datum (lib.powTen x) ≠ .notANumber
  tan : ∀ x, x.isFinite = true → (lib.tan x).isFinite = true
  cos : ∀ x, x.isFinite = true → (lib.cos x).isFinite = true
  sin : ∀ x, x.isFinite = true → (lib.sin x).isFinite = true
  log : ∀ x, x.isFinite = true → 0 < value x → (lib.log x).isFinite = true
  log10 : ∀ x, x.isFinite = true → 0 < value x → (lib.log10 x).isFinite = true

/-- A library whose functions are right at zero, and the logarithms at one, and finite
everywhere. -/
def atZero : Library where
  exp _ := 1
  powTen _ := 1
  tan x := x
  cos _ := 1
  sin x := x
  log _ := 0
  log10 _ := 0

/-- This library is regular. -/
lemma isRegular_atZero : atZero.IsRegular := by
  have hzero : (0 : Float).isFinite = true := by decide +kernel
  have hone : (1 : Float).isFinite = true := by decide +kernel
  have hnumber : datum 1 ≠ .notANumber := by decide +kernel
  exact ⟨fun _ _ => hnumber, fun _ _ => hnumber, fun _ hx => hx, fun _ _ => hone, fun _ hx => hx,
    fun _ _ _ => hzero, fun _ _ _ => hzero⟩

/-- The operations of the calculator that call a function of the library. -/
def unary? (lib : Library) : String → Option Unary
  | "eˣ" => some { function := exponential lib.exp }
  | "10ˣ" => some { function := exponential lib.powTen }
  | "tan" => some { function := trigonometric lib.tan }
  | "cos" => some { function := trigonometric lib.cos }
  | "sin" => some { function := trigonometric lib.sin }
  | "㏑" => some { function := Arithmetic.total (logarithm lib.log), domain := some positive }
  | "㏒₁₀" => some { function := Arithmetic.total (logarithm lib.log10), domain := some positive }
  | _ => none

end Library

/-! ### Guarded functions -/

namespace Arithmetic

variable {x y : Float}

/-- Where there is no reason against operands, they are not rejected. -/
lemma not_rejection_of_or_eq_none {refusal : Option String} {outcome : Except Fault Float}
    (haccept : refusal.or (Fault.reasonOf outcome) = none) (reason : String) :
    ¬ Rejection refusal outcome reason := by
  rw [← or_reasonOf_eq_some_iff, haccept]
  exact Option.some_ne_none reason ∘ Eq.symm

/-- An exponential function whose results are numbers gives finite results where it does not
fail. -/
lemma isFinite_exponential {exp : Float → Float} (hx : x.isFinite = true)
    (hnumber : datum (exp x) ≠ .notANumber)
    (haccept : ∀ reason, ¬ Rejection none (exponential exp x) reason) :
    (Fault.valueOf (exponential exp x)).isFinite = true := by
  have hinfinite : ¬ IsInfinite (exp x) := fun hy =>
    haccept _ (rejection_exponential_iff.mpr ⟨hx, hy, rfl⟩)
  have hguard : ¬ ((exp x).isInf && x.isFinite) = true := by
    rwa [hx, Bool.and_true, isInf_iff]
  rw [exponential, if_neg hguard]
  exact (isFinite_or_isInfinite hnumber).resolve_right hinfinite

/-- A trigonometric function with finite values gives finite results. -/
lemma isFinite_trigonometric {f : Float → Float} (hvalue : (f x).isFinite = true)
    (haccept : ∀ reason, ¬ Rejection none (trigonometric f x) reason) :
    (Fault.valueOf (trigonometric f x)).isFinite = true := by
  have hguard : ¬ x.isInf = true := fun hinf =>
    haccept _ (rejection_trigonometric_iff.mpr ⟨isInf_iff.mp hinf, rfl⟩)
  rwa [trigonometric, if_neg hguard]

/-- Square roots are finite. -/
lemma isFinite_squareRoot (hx : x.isFinite = true)
    (haccept : ∀ reason, ¬ Rejection (nonNegative x) (squareRoot x) reason) :
    (Fault.valueOf (squareRoot x)).isFinite = true := by
  have hbelow : ¬ IsBelowZero x := fun h => haccept _ (rejection_squareRoot_iff.mpr ⟨h, rfl⟩)
  rw [squareRoot, if_neg (mt lt_zero_iff.mp hbelow)]
  exact isFinite_sqrt hx hbelow

/-- A logarithm that is finite above zero gives finite results. -/
lemma isFinite_logarithm {log : Float → Float} (hx : x.isFinite = true)
    (hvalue : 0 < value x → (log x).isFinite = true)
    (haccept : ∀ reason, ¬ Rejection (positive x) (total (logarithm log) x) reason) :
    (Fault.valueOf (total (logarithm log) x)).isFinite = true := by
  obtain ⟨hbelow, hzero⟩ : ¬ IsBelowZero x ∧ ¬ IsZero x :=
    not_or.mp fun h => haccept _ (rejection_logarithm_iff.mpr ⟨h, rfl⟩)
  rw [total, logarithm, if_neg (mt beq_zero_iff.mp hzero), if_neg (mt lt_zero_iff.mp hbelow)]
  exact hvalue (value_pos hx hbelow hzero)

/-- Quotients are finite, or too large. -/
lemma isFinite_or_isInfinite_divide {quotient : Float} (hx : x.isFinite = true)
    (hy : y.isFinite = true) (haccept : ∀ reason, ¬ Rejection (nonZero y) (.ok quotient) reason) :
    (divide x y).isFinite = true ∨ IsInfinite (divide x y) := by
  have hzero : ¬ IsZero y := fun h => haccept _ (rejection_nonZero_iff.mpr ⟨h, rfl⟩)
  rw [divide, if_neg (mt beq_zero_iff.mp hzero)]
  exact isFinite_or_isInfinite_div hx hy hzero

end Arithmetic

namespace Table

variable {σ : Type} {between : Nat → Nat → σ → Nat × σ} {lib : Library}

/-- The table of the calculator with a mathematics library. -/
def standardWith (lib : Library) (between : Nat → Nat → σ → Nat × σ) : Table σ :=
  (standard between).mapValues fun symbol operation => (lib.unary? symbol).elim operation .unary

/-- The table of the calculator is the one with the library of the machine. -/
theorem standardWith_native : standardWith .native between = standard between := rfl

/-! ### Confined tables -/

/-- A table is confined to the finite numbers, apart from some symbols: constants and draws are
finite, and so are the results for finite operands that are accepted. The results of the operations
with these symbols may be infinite. -/
structure Confined (table : Table σ) (doors : List String) : Prop where
  constant : ∀ {symbol x}, table.get? symbol = some (.constant x) → x.isFinite = true
  unary : ∀ {symbol f x}, table.get? symbol = some (.unary f) → x.isFinite = true →
    f.violation? x = none → (f.value x).isFinite = true ∨ symbol ∈ doors ∧ IsInfinite (f.value x)
  binary : ∀ {symbol f x y}, table.get? symbol = some (.binary f) → x.isFinite = true →
    y.isFinite = true → f.violation? x y = none →
      (f.value x y).isFinite = true ∨ symbol ∈ doors ∧ IsInfinite (f.value x y)
  custom : ∀ {symbol draw}, table.get? symbol = some (.custom draw) →
    ∀ source, (draw source).1.isFinite = true

/-- The symbols of the operations whose results may be too large. -/
def doors : List String := ["+", "−", "×", "÷", "x⁻¹", "x²", "x³"]

/-- The source draws within the bounds of a random value. -/
def DrawsWithin (between : Nat → Nat → σ → Nat × σ) : Prop :=
  ∀ source, 1 ≤ (between 1 randomUpperBound source).1 ∧
    (between 1 randomUpperBound source).1 ≤ randomUpperBound

/-- A supply draws within the bounds. -/
lemma drawsWithin_between : DrawsWithin Supply.between := by
  intro supply
  have hrange : (0 : ℤ) < (randomUpperBound - 1 + 1 : ℕ) := by decide
  have hlow := Int.emod_nonneg supply.numbers.draw.1 hrange.ne'
  have hhigh := Int.emod_lt_of_pos supply.numbers.draw.1 hrange
  have hbound : randomUpperBound - 1 + 1 = randomUpperBound := rfl
  simp only [Supply.between]
  omega

/-- A random value is finite. -/
lemma isFinite_randomValue {source : σ} (hlow : 1 ≤ (between 1 randomUpperBound source).1)
    (hhigh : (between 1 randomUpperBound source).1 ≤ randomUpperBound) :
    (randomValue between source).1.isFinite = true := by
  have hbound : (between 1 randomUpperBound source).1 < 2 ^ 32 := hhigh.trans_lt (by decide)
  have hreciprocal := isBounded_one_div (isNormal_ofNat hlow hbound)
  have hscale := (isNormal_ofNat (n := randomScale) (by decide) (by decide)).isBounded
  exact ((hreciprocal.mul hscale).packed (by decide) (by decide)).isFinite

/-- The operations that call the library give finite results. -/
lemma isFinite_value_of_unary? (hlib : lib.IsRegular) {symbol : String} {f : Unary} {x : Float}
    (hcall : lib.unary? symbol = some f) (hx : x.isFinite = true)
    (haccept : f.violation? x = none) : (f.value x).isFinite = true := by
  have hreject := not_rejection_of_or_eq_none haccept
  unfold Library.unary? at hcall
  split at hcall <;> cases hcall
  · exact isFinite_exponential hx (hlib.exp x hx) hreject
  · exact isFinite_exponential hx (hlib.powTen x hx) hreject
  · exact isFinite_trigonometric (hlib.tan x hx) hreject
  · exact isFinite_trigonometric (hlib.cos x hx) hreject
  · exact isFinite_trigonometric (hlib.sin x hx) hreject
  · exact isFinite_logarithm hx (hlib.log x hx) hreject
  · exact isFinite_logarithm hx (hlib.log10 x hx) hreject

/-- An operation of the calculator calls the library, or it is the one of the standard table. -/
lemma unary?_or_of_get? {symbol : String} {operation : Operation σ}
    (hfound : (standardWith lib between).get? symbol = some operation) :
    (∃ f, lib.unary? symbol = some f ∧ operation = .unary f) ∨
      (lib.unary? symbol = none ∧ (standard between).get? symbol = some operation) := by
  rw [standardWith, OrderedMap.get?_mapValues, Option.map_eq_some_iff] at hfound
  obtain ⟨found, hstandard, rfl⟩ := hfound
  rcases hcall : lib.unary? symbol with _ | f
  · exact Or.inr ⟨rfl, hstandard⟩
  · exact Or.inl ⟨f, rfl, rfl⟩

/-- The operations of one operand that do not call the library. -/
lemma isFinite_or_mem_doors_of_unary {symbol : String} {f : Unary} {x : Float}
    (hnone : lib.unary? symbol = none) (hfound : (standard between).get? symbol = some (.unary f))
    (hx : x.isFinite = true) (haccept : f.violation? x = none) :
    (f.value x).isFinite = true ∨ symbol ∈ doors ∧ IsInfinite (f.value x) := by
  have hreject := not_rejection_of_or_eq_none haccept
  rcases standard_unary_cases hfound with ⟨rfl, rfl⟩ | ⟨rfl, rfl⟩ | ⟨rfl, rfl⟩ | ⟨rfl, rfl⟩ |
    ⟨rfl, rfl⟩ | ⟨rfl, rfl⟩ | ⟨rfl, rfl⟩ | ⟨rfl, rfl⟩ | ⟨rfl, rfl⟩ | ⟨rfl, rfl⟩ | ⟨rfl, rfl⟩ |
    ⟨rfl, rfl⟩
  · cases hnone
  · cases hnone
  · exact Or.inl (isFinite_squareRoot hx hreject)
  · cases hnone
  · cases hnone
  · cases hnone
  · cases hnone
  · cases hnone
  · exact Or.inl (isFinite_neg hx)
  · exact (isFinite_or_isInfinite_divide rfl hx hreject).imp_right (And.intro (by decide))
  · exact (isFinite_or_isInfinite_mul hx hx).imp_right (And.intro (by decide))
  · exact (isFinite_or_isInfinite_cube hx).imp_right (And.intro (by decide))

/-- The operations of two operands. -/
lemma isFinite_or_mem_doors_of_binary {symbol : String} {f : Binary} {x y : Float}
    (hfound : (standard between).get? symbol = some (.binary f)) (hx : x.isFinite = true)
    (hy : y.isFinite = true) (haccept : f.violation? x y = none) :
    (f.value x y).isFinite = true ∨ symbol ∈ doors ∧ IsInfinite (f.value x y) := by
  have hreject := not_rejection_of_or_eq_none haccept
  rcases standard_binary_cases hfound with ⟨rfl, rfl⟩ | ⟨rfl, rfl⟩ | ⟨rfl, rfl⟩ | ⟨rfl, rfl⟩
  · exact (isFinite_or_isInfinite_add hx hy).imp_right (And.intro (by decide))
  · exact (isFinite_or_isInfinite_sub hx hy).imp_right (And.intro (by decide))
  · exact (isFinite_or_isInfinite_mul hx hy).imp_right (And.intro (by decide))
  · exact (isFinite_or_isInfinite_divide hx hy hreject).imp_right (And.intro (by decide))

/-- The calculator is confined to the finite numbers, apart from the operations whose results may be
too large: with every regular library, and every source that draws within the bounds. -/
theorem confined_standardWith (hlib : lib.IsRegular) (hdraws : DrawsWithin between) :
    (standardWith lib between).Confined doors where
  constant := by
    intro symbol x hfound
    rcases unary?_or_of_get? hfound with ⟨f, -, hoperation⟩ | ⟨-, hstandard⟩
    · cases hoperation
    · have hmem := OrderedMap.get?_eq_some_iff.mp hstandard
      simp only [standard, standardEntries, List.mem_cons, Prod.mk.injEq, Operation.constant.injEq,
        reduceCtorEq, and_false, or_false, List.not_mem_nil] at hmem
      rcases hmem with ⟨-, rfl⟩ | ⟨-, rfl⟩ <;> decide +kernel
  unary := by
    intro symbol f x hfound hx haccept
    rcases unary?_or_of_get? hfound with ⟨g, hcall, hoperation⟩ | ⟨hnone, hstandard⟩
    · cases hoperation
      exact Or.inl (isFinite_value_of_unary? hlib hcall hx haccept)
    · exact isFinite_or_mem_doors_of_unary hnone hstandard hx haccept
  binary := by
    intro symbol f x y hfound hx hy haccept
    rcases unary?_or_of_get? hfound with ⟨g, -, hoperation⟩ | ⟨-, hstandard⟩
    · cases hoperation
    · exact isFinite_or_mem_doors_of_binary hstandard hx hy haccept
  custom := by
    intro symbol draw hfound source
    rcases unary?_or_of_get? hfound with ⟨g, -, hoperation⟩ | ⟨-, hstandard⟩
    · cases hoperation
    · have hmem := OrderedMap.get?_eq_some_iff.mp hstandard
      simp only [standard, standardEntries, List.mem_cons, Prod.mk.injEq, Operation.custom.injEq,
        reduceCtorEq, and_false, false_or, or_false, List.not_mem_nil] at hmem
      obtain ⟨-, rfl⟩ := hmem
      exact isFinite_randomValue (hdraws source).1 (hdraws source).2

end Table

end ReplayCalculator
