import ReplayCalculator.Evaluation.Basic

/-!
# Evaluating lists from outside

A list that comes from outside may hold values that are no steps. Such a value is noticed when the
replay reaches it, so that an error of an earlier step comes first. The list is put into words
before it is replayed, which succeeds because every value in it has a text, the foreign ones too.
-/

namespace ReplayCalculator

/-- A member of a list from outside: a step, or a value of some other type. A foreign value has a
text, on which nothing depends; what is said of the value is the name of its type. -/
inductive Entry
  | step (step : Step)
  | foreign (typeName : String)
  deriving DecidableEq

/-- The steps in front of the first value that is none, and the type of that value. -/
def Entry.leadingSteps : List Entry → List Step × Option String
  | [] => ([], none)
  | .step s :: rest => (s :: (leadingSteps rest).1, (leadingSteps rest).2)
  | .foreign typeName :: _ => ([], some typeName)

/-- Why a list from outside has no evaluation. -/
inductive EntryError
  | calculation (e : CalculationError)
  | foreign (typeName : String)
  deriving DecidableEq

/-- The error in words. -/
def EntryError.message : EntryError → String
  | calculation e => e.message
  | foreign typeName => "Unknown step type: " ++ typeName

variable {σ : Type} (table : Table σ) (bindings : Bindings)

/-- The evaluation of a list from outside. -/
def evaluateEntriesIn (mode : Mode) (entries : List Entry) (source : σ) :
    Except EntryError Evaluation × σ :=
  let (steps, foreign) := Entry.leadingSteps entries
  match evaluateIn table bindings mode steps source with
  | (.error e, source) => (.error (.calculation e), source)
  | (.ok evaluation, source) =>
    match foreign with
    | some typeName => (.error (.foreign typeName), source)
    | none => (.ok evaluation, source)

theorem leadingSteps_append (steps : List Step) (entries : List Entry) :
    Entry.leadingSteps (steps.map .step ++ entries) =
      (steps ++ (Entry.leadingSteps entries).1, (Entry.leadingSteps entries).2) := by
  induction steps with
  | nil => rfl
  | cons step rest ih => simp [Entry.leadingSteps, ih]

end ReplayCalculator
