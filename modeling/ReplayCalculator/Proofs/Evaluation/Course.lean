import Mathlib.Tactic.Lemma
import ReplayCalculator.Evaluation.Entry

/-!
# The course of an evaluation

An evaluation tells its outcome, but not how it came about: which steps were executed before it
ended, and which draws were made for them. Both are told here.

* `runEntriesIn` goes through a list from outside entry by entry, and `evaluateEntriesIn_eq` says
  that this is how the list is evaluated.
* `executedIn` lists the steps that are executed. The step at which the mode objects is the last one
  of them.
* The draws are observed and not computed: `Table.recording` is the table whose custom operations
  also keep a record, and `drawsIn` is the record that an evaluation under this table leaves behind.

Recording changes no outcome (`evaluateEntriesIn_recording`), and the draws are those of the
executed steps, one for each custom symbol among them (`drawsIn_eq`, `map_fst_drawsOf`).
-/

namespace ReplayCalculator

variable {σ : Type}

/-! ### From entry to entry -/

/-- The state after some entries, unless one of them is no step or the mode objects to one. -/
def Replay.runEntriesIn (table : Table σ) (bindings : Bindings) (mode : Mode) :
    Replay → List Entry → σ → Except EntryError Replay × σ
  | s, [], source => (.ok s, source)
  | _, .foreign typeName :: _, source => (.error (.foreign typeName), source)
  | s, .step step :: rest, source =>
    match s.objection? mode (step.meaning table bindings source).1 with
    | some e => (.error (.calculation e), (step.meaning table bindings source).2)
    | none =>
      runEntriesIn table bindings mode (s.after (step.meaning table bindings source).1) rest
        (step.meaning table bindings source).2

/-- The steps that are executed until the entries end, one of them is no step or the mode
objects. -/
def executedIn (table : Table σ) (bindings : Bindings) (mode : Mode) :
    Replay → List Entry → σ → List Step
  | _, [], _ => []
  | _, .foreign _ :: _, _ => []
  | s, .step step :: rest, source =>
    step ::
      match s.objection? mode (step.meaning table bindings source).1 with
      | some _ => []
      | none =>
        executedIn table bindings mode (s.after (step.meaning table bindings source).1) rest
          (step.meaning table bindings source).2

variable (table : Table σ) (bindings : Bindings)

/-- Going from entry to entry amounts to running through the leading steps first. -/
lemma runEntriesIn_eq (mode : Mode) (s : Replay) (entries : List Entry) (source : σ) :
    Replay.runEntriesIn table bindings mode s entries source =
      match Replay.runIn table bindings mode s (Entry.leadingSteps entries).1 source with
      | (.error e, source) => (.error (.calculation e), source)
      | (.ok t, source) =>
        match (Entry.leadingSteps entries).2 with
        | some typeName => (.error (.foreign typeName), source)
        | none => (.ok t, source) := by
  induction entries generalizing s source with
  | nil => rfl
  | cons entry rest ih =>
    rcases entry with step | typeName
    · simp only [Replay.runEntriesIn, Entry.leadingSteps, Replay.runIn_cons]
      cases s.objection? mode (step.meaning table bindings source).1 with
      | some e => rfl
      | none => exact ih _ _
    · rfl

/-- A list is evaluated by going through its entries from the start. -/
lemma evaluateEntriesIn_eq (mode : Mode) (entries : List Entry) (source : σ) :
    evaluateEntriesIn table bindings mode entries source =
      ((Replay.runEntriesIn table bindings mode .start entries source).1.map Replay.evaluation,
        (Replay.runEntriesIn table bindings mode .start entries source).2) := by
  rw [runEntriesIn_eq]
  simp only [evaluateEntriesIn, evaluateIn]
  rcases Replay.runIn table bindings mode .start (Entry.leadingSteps entries).1 source with
    ⟨e | t, source'⟩
  · rfl
  · cases (Entry.leadingSteps entries).2 <;> rfl

/-! ### Tables that record -/

/-- The operation that, if it is custom, also keeps a record of its draws under the symbol. -/
def Operation.recording (symbol : String) : Operation σ → Operation (σ × List (String × Float))
  | .constant x => .constant x
  | .unary f => .unary f
  | .binary f => .binary f
  | .equals => .equals
  | .custom draw => .custom fun (source, record) =>
    ((draw source).1, (draw source).2, record ++ [(symbol, (draw source).1)])

/-- The table whose custom operations keep a common record of their draws. -/
def Table.recording (table : Table σ) : Table (σ × List (String × Float)) :=
  table.mapValues Operation.recording

/-- The draws that the evaluation of a list makes, with their symbols, in order. -/
def drawsIn (mode : Mode) (entries : List Entry) (source : σ) : List (String × Float) :=
  (evaluateEntriesIn table.recording bindings mode entries (source, [])).2.2

/-- The draw that a step makes if it is a custom symbol. -/
def Step.draw? (source : σ) : Step → Option (String × Float)
  | .operation symbol =>
    match table.find? symbol with
    | some (.custom draw) => some (symbol.text, (draw source).1)
    | _ => none
  | _ => none

/-- The symbol of a step that is a custom symbol. -/
def Step.customSymbol? : Step → Option String
  | .operation symbol =>
    match table.find? symbol with
    | some (.custom _) => some symbol.text
    | _ => none
  | _ => none

/-- The draws of steps that are all executed. -/
def drawsOf : List Step → σ → List (String × Float)
  | [], _ => []
  | step :: rest, source =>
    (step.draw? table source).toList ++ drawsOf rest (step.meaning table bindings source).2

/-! ### What is recorded -/

variable {table bindings}

/-- A symbol is found in the recording table as in the table itself. -/
lemma find?_recording (table : Table σ) (symbol : Symbol) :
    table.recording.find? symbol = (table.find? symbol).map (Operation.recording symbol.text) := by
  cases symbol with
  | plain text => exact OrderedMap.get?_mapValues Operation.recording table text
  | torn front offset back => rfl

/-- A step has the same meaning under the recording table, and its draw is recorded. -/
lemma meaning_recording (step : Step) (source : σ) (record : List (String × Float)) :
    step.meaning table.recording bindings (source, record) =
      ((step.meaning table bindings source).1, (step.meaning table bindings source).2,
        record ++ (step.draw? table source).toList) := by
  rcases step with x | symbol | name
  · simp [Step.meaning, Step.draw?]
  · simp only [Step.meaning, Step.draw?, find?_recording]
    cases table.find? symbol with
    | none => simp
    | some operation => cases operation <;> simp [Operation.recording, Operation.meaning]
  · simp [Step.meaning, Step.draw?]

/-- A run under the recording table ends as under the table itself, and the draws of the executed
steps are recorded. -/
lemma runEntriesIn_recording (mode : Mode) (s : Replay) (entries : List Entry) (source : σ)
    (record : List (String × Float)) :
    Replay.runEntriesIn table.recording bindings mode s entries (source, record) =
      ((Replay.runEntriesIn table bindings mode s entries source).1,
        (Replay.runEntriesIn table bindings mode s entries source).2,
        record ++
          drawsOf table bindings (executedIn table bindings mode s entries source) source) := by
  induction entries generalizing s source record with
  | nil => simp [Replay.runEntriesIn, executedIn, drawsOf]
  | cons entry rest ih =>
    rcases entry with step | typeName
    · simp only [Replay.runEntriesIn, executedIn, meaning_recording]
      cases s.objection? mode (step.meaning table bindings source).1 with
      | some e => simp [drawsOf]
      | none =>
        simp only [drawsOf, ih, List.append_assoc]
    · simp [Replay.runEntriesIn, executedIn, drawsOf]

/-- Recording changes no outcome. -/
lemma evaluateEntriesIn_recording (mode : Mode) (entries : List Entry) (source : σ)
    (record : List (String × Float)) :
    (evaluateEntriesIn table.recording bindings mode entries (source, record)).1 =
      (evaluateEntriesIn table bindings mode entries source).1 := by
  simp only [evaluateEntriesIn_eq, runEntriesIn_recording]

/-- The draws that an evaluation makes are those of the steps that it executes. -/
lemma drawsIn_eq (mode : Mode) (entries : List Entry) (source : σ) :
    drawsIn table bindings mode entries source =
      drawsOf table bindings (executedIn table bindings mode .start entries source) source := by
  simp only [drawsIn, evaluateEntriesIn_eq, runEntriesIn_recording, List.nil_append]

/-- There is one draw for each custom symbol. -/
lemma map_fst_drawsOf (steps : List Step) (source : σ) :
    (drawsOf table bindings steps source).map Prod.fst =
      steps.filterMap (Step.customSymbol? table) := by
  induction steps generalizing source with
  | nil => rfl
  | cons step rest ih =>
    have hstep : (step.draw? table source).map Prod.fst = step.customSymbol? table := by
      rcases step with x | symbol | name
      · rfl
      · simp only [Step.draw?, Step.customSymbol?]
        split <;> rfl
      · rfl
    simp only [drawsOf, List.map_append, ih, List.filterMap_cons, ← hstep]
    cases step.draw? table source <;> rfl

end ReplayCalculator
