import ReplayCalculator.Evaluation.Replay

/-!
# Evaluations

What a replay of all steps amounts to: a result if there is one, whether an operation still waits
for its second operand, and the description of the calculation. `evaluate` is the lenient
evaluation, a total function; `evaluateIn` stops with an error where its mode objects.

* `evaluateIn_lenient`: in the lenient mode the two are the same.
-/

namespace ReplayCalculator

/-- What a calculation amounts to. -/
structure Evaluation where
  result : Option Float
  isPending : Bool
  description : String
  deriving DecidableEq

/-- The evaluation at which a replay stands. -/
def Replay.evaluation (s : Replay) : Evaluation :=
  ⟨s.accumulator, s.pending.isSome, s.description⟩

variable {σ : Type} (table : Table σ) (bindings : Bindings)

/-- The lenient evaluation of the steps, and the source after their draws. -/
def evaluate (steps : List Step) (source : σ) : Evaluation × σ :=
  let (s, source) := Replay.run table bindings .start steps source
  (s.evaluation, source)

/-- The evaluation of the steps in a mode, and the source after the draws that were made. -/
def evaluateIn (mode : Mode) (steps : List Step) (source : σ) :
    Except CalculationError Evaluation × σ :=
  let (outcome, source) := Replay.runIn table bindings mode .start steps source
  (outcome.map Replay.evaluation, source)

theorem evaluateIn_lenient (steps : List Step) (source : σ) :
    evaluateIn table bindings .lenient steps source =
      (.ok (evaluate table bindings steps source).1, (evaluate table bindings steps source).2) := by
  simp [evaluateIn, evaluate, Replay.runIn_lenient, Except.map]

end ReplayCalculator
