import ReplayCalculator.Operation.Arithmetic
import ReplayCalculator.Operation.Symbol
import ReplayCalculator.OrderedMap

/-!
# Operation tables

A table maps key symbols to operations, in the order in which the keys are listed. The standard
table holds the keys of the calculator. Its one custom operation draws whole numbers between two
bounds from a source that the caller chooses, so that a replay can be repeated with the same draws.

* `standardEntries_symbols`: the symbols of the standard table are these, all different.
* `symbolsByKind`: the symbols of a table grouped by the kind of their operations, kinds and symbols
  in the order of the table.
-/

namespace ReplayCalculator

/-- The operations by their symbols, in the order of the keys. -/
abbrev Table (σ : Type) := OrderedMap String (Operation σ)

namespace Table

variable {σ : Type}

/-- The operation of a symbol. No table holds a symbol with a surrogate. -/
def find? (table : Table σ) : Symbol → Option (Operation σ)
  | .plain text => table.get? text
  | .torn .. => none

@[simp] theorem find?_plain (table : Table σ) (text : String) :
    table.find? (.plain text) = table.get? text := rfl

/-- Only a text of characters has an operation. -/
theorem find?_eq_some_iff {table : Table σ} {symbol : Symbol} {operation : Operation σ} :
    table.find? symbol = some operation ↔
      ∃ text, symbol = .plain text ∧ table.get? text = some operation := by
  cases symbol with
  | plain text => simp
  | torn front offset back => simp [find?]

/-- A random value is this number over a drawn denominator. -/
def randomScale : Nat := 1000000

/-- The largest denominator that is drawn. -/
def randomUpperBound : Nat := 0xffffffff

/-- A random value: the scale over a whole number drawn from one up to the bound. -/
def randomValue (between : Nat → Nat → σ → Nat × σ) (source : σ) : Float × σ :=
  let (n, source) := between 1 randomUpperBound source
  (1 / Float.ofNat n * Float.ofNat randomScale, source)

open Arithmetic in
/-- The keys of the calculator with their operations, in order. `between lo hi` draws a whole number
from `lo` up to `hi`. -/
def standardEntries (between : Nat → Nat → σ → Nat × σ) : List (String × Operation σ) := [
  ("π", .constant 3.141592653589793),
  ("e", .constant 2.718281828459045),
  ("eˣ", .unary { function := exponential Float.exp }),
  ("10ˣ", .unary { function := exponential (Float.pow 10) }),
  ("√", .unary { function := squareRoot, domain := some nonNegative }),
  ("tan", .unary { function := trigonometric Float.tan }),
  ("cos", .unary { function := trigonometric Float.cos }),
  ("sin", .unary { function := trigonometric Float.sin }),
  ("㏑", .unary { function := total (logarithm Float.log), domain := some positive }),
  ("㏒₁₀", .unary { function := total (logarithm Float.log10), domain := some positive }),
  ("±", .unary { function := total fun x => -x }),
  ("x⁻¹", .unary { function := total (divide 1), domain := some nonZero }),
  ("x²", .unary { function := total fun x => x * x }),
  ("x³", .unary { function := total fun x => x * x * x }),
  ("+", .binary { function := total₂ fun x y => x + y }),
  ("−", .binary { function := total₂ fun x y => x - y }),
  ("×", .binary { function := total₂ fun x y => x * y }),
  ("÷", .binary { function := total₂ divide, domain := some nonZeroDivisor }),
  ("=", .equals),
  ("Rand", .custom (randomValue between))]

theorem standardEntries_symbols (between : Nat → Nat → σ → Nat × σ) :
    (standardEntries between).map Prod.fst =
      ["π", "e", "eˣ", "10ˣ", "√", "tan", "cos", "sin", "㏑", "㏒₁₀", "±", "x⁻¹", "x²", "x³",
        "+", "−", "×", "÷", "=", "Rand"] := rfl

/-- The table of the calculator. -/
def standard (between : Nat → Nat → σ → Nat × σ) : Table σ where
  entries := standardEntries between
  nodup := by
    rw [standardEntries_symbols]
    decide +kernel

/-! ### Grouping by kind -/

/-- The groups with one more symbol, at the end of the group of its kind; a kind without a group
gets one behind all others. -/
def addToGroup (kind : Kind) (symbol : String) :
    List (Kind × List String) → List (Kind × List String)
  | [] => [(kind, [symbol])]
  | group :: rest =>
    if group.1 = kind then (kind, group.2 ++ [symbol]) :: rest
    else group :: addToGroup kind symbol rest

/-- The symbols grouped by the kind of their operations. -/
def symbolsByKind (table : Table σ) : List (Kind × List String) :=
  table.entries.foldl (fun groups entry => addToGroup entry.2.kind entry.1 groups) []

end Table

end ReplayCalculator
