import ReplayCalculator.Step.Basic

/-!
# Step logs

The log of a calculation lists its steps, oldest first. Steps are added at the end, and undoing
takes the last one away again, so that undoing is a truncation and needs no inverse operations.

* `removeLast_append`: removing the last step undoes adding it.
-/

namespace ReplayCalculator

/-- The steps of a calculation, oldest first. -/
structure Log where
  steps : List Step := []

namespace Log

/-- The log without steps. -/
def empty : Log := {}

/-- The number of steps. -/
def size (log : Log) : Nat := log.steps.length

/-- Whether there are no steps. -/
def isEmpty (log : Log) : Bool := log.steps.isEmpty

/-- The log with one more step at the end. -/
def append (log : Log) (step : Step) : Log := ⟨log.steps ++ [step]⟩

/-- The last step, if there is one, and the log without it. -/
def removeLast (log : Log) : Option Step × Log := (log.steps.getLast?, ⟨log.steps.dropLast⟩)

/-- The texts of the steps, oldest first. -/
def texts (log : Log) : List String := log.steps.map Step.text

/-- The whole log as one line. -/
def text (log : Log) : String := "StepLog([" ++ ", ".intercalate log.texts ++ "])"

@[simp] theorem steps_append (log : Log) (step : Step) :
    (log.append step).steps = log.steps ++ [step] := rfl

@[simp] theorem removeLast_append (log : Log) (step : Step) :
    (log.append step).removeLast = (some step, log) := by
  simp [removeLast, append]

end Log

end ReplayCalculator
