import Mathlib.Control.Monad.Basic
import Mathlib.Tactic.Lemma
import ReplayCalculator.Operation.Feed
import ReplayCalculator.Proofs.Evaluation.Course
import ReplayCalculator.Proofs.Replay.Likeness

/-!
# Operands written as numbers

Variables, constants and custom symbols bring an operand as numbers do, but they leave other marks
and other texts. A list is *inlined* by writing in the place of each of them the number for which it
stands: the value of the variable, the constant, or the answer that the custom operation draws.

Marks and texts are read by the description alone. Two states that agree in accumulator and pending
operation (`SameValues`) therefore meet the same objections and go on to agree, one of them in the
list and the other in the inlined list. So `evaluateEntriesIn_inlined` says that inlining changes
neither result nor pending flag nor error, in any mode. The answers in the inlined list are those
that the evaluation draws, and it draws one for each custom symbol that it executes.
-/

namespace ReplayCalculator

/-! ### Inlined lists -/

/-- The meaning in which an operand of any origin is a number. -/
def Meaning.inlined : Meaning → Meaning
  | .number x => .number x
  | .variable _ x => .number x
  | .constant x => .number x
  | .drawn x => .number x
  | .unary symbol f => .unary symbol f
  | .binary symbol f => .binary symbol f
  | .equals symbol => .equals symbol
  | .unknown => .unknown

variable {σ : Type} (table : Table σ) (bindings : Bindings)

/-- The step with a number in the place of an operand, and the source after the draw for it. -/
def Step.inlined : Step → σ → Step × σ
  | .number x, source => (.number x, source)
  | .variable name, source => (.number ((bindings.get? name).getD 0), source)
  | .operation symbol, source =>
    match table.find? symbol with
    | some (.constant x) => (.number x, source)
    | some (.custom draw) => (.number (draw source).1, (draw source).2)
    | _ => (.operation symbol, source)

/-- The list with numbers in the place of all operands. Custom operations hand out their answers in
order. -/
def inlined : List Entry → σ → List Entry
  | [], _ => []
  | .step step :: rest, source =>
    .step (step.inlined table bindings source).1 ::
      inlined rest (step.inlined table bindings source).2
  | .foreign typeName :: rest, source => .foreign typeName :: inlined rest source

/-- The answer of a custom symbol, read off the entry of the inlined list. -/
def Step.answer? : Step × Entry → Option (String × Float)
  | (step, .step (.number x)) => (step.customSymbol? table).map fun symbol => (symbol, x)
  | _ => none

/-- What an evaluation tells apart from the description. -/
def Evaluation.values (v : Evaluation) : Option Float × Bool := (v.result, v.isPending)

/-- The bindings of an evaluation for which none need be given. -/
def Bindings.ofGiven (given : Option Bindings) : Bindings := given.getD .empty

variable {table bindings}

/-- Inlining a step makes the draw that executing it makes. -/
lemma inlined_snd (step : Step) (source : σ) :
    (step.inlined table bindings source).2 = (step.meaning table bindings source).2 := by
  rcases step with x | symbol | name
  · rfl
  · simp only [Step.inlined, Step.meaning]
    cases table.find? symbol with
    | none => rfl
    | some operation => cases operation <;> rfl
  · rfl

/-- An inlined step means the same with a number as operand, and makes no draw. -/
lemma meaning_inlined (step : Step) (source source' : σ) :
    (step.inlined table bindings source).1.meaning table bindings source' =
      ((step.meaning table bindings source).1.inlined, source') := by
  rcases step with x | symbol | name
  · rfl
  · cases hfound : table.find? symbol with
    | none => simp [Step.inlined, Step.meaning, hfound, Meaning.inlined]
    | some operation =>
      cases operation <;>
        simp [Step.inlined, Step.meaning, hfound, Operation.meaning, Meaning.inlined]
  · rfl

/-- The answer that stands in an inlined list is the one that the step draws. -/
lemma answer?_inlined (step : Step) (source : σ) :
    Step.answer? table (step, .step (step.inlined table bindings source).1) =
      step.draw? table source := by
  rcases step with x | symbol | name
  · rfl
  · cases hfound : table.find? symbol with
    | none => simp [Step.inlined, Step.answer?, Step.draw?, hfound]
    | some operation =>
      cases operation <;>
        simp [Step.inlined, Step.answer?, Step.customSymbol?, Step.draw?, hfound]
  · rfl

/-! ### States with the same values -/

/-- States with the same values evaluate to the same result and flag. -/
lemma Replay.SameValues.values_eq {s t : Replay} (h : SameValues s t) :
    s.evaluation.values = t.evaluation.values := by
  simp only [Replay.evaluation, Evaluation.values, h.accumulator, h.pending]

/-- A mode does not ask where an operand comes from. -/
lemma objection?_inlined (s : Replay) (mode : Mode) (m : Meaning) :
    s.objection? mode m.inlined = s.objection? mode m := by
  cases m <;> cases mode <;> rfl

/-- States with the same values go on to have the same values, be the operand inlined or not. -/
lemma Replay.SameValues.after {s t : Replay} (h : SameValues s t) (m : Meaning) :
    SameValues (s.after m) (t.after m.inlined) := by
  have hacc := h.accumulator
  have hpending := h.pending
  rcases m with x | ⟨name, x⟩ | x | ⟨symbol, f⟩ | ⟨symbol, f⟩ | symbol | x | _
  · exact ⟨rfl, hpending⟩
  · exact ⟨rfl, hpending⟩
  · exact ⟨rfl, hpending⟩
  · cases ht : t.accumulator with
    | none => simpa only [Replay.after, Meaning.inlined, hacc, ht, Option.elim] using h
    | some x =>
      simp only [Replay.after, Meaning.inlined, hacc, ht, Option.elim]
      exact ⟨rfl, hpending⟩
  · cases ht : t.accumulator with
    | none => simpa only [Replay.after, Meaning.inlined, hacc, ht, Option.elim] using h
    | some x =>
      simp only [Replay.after, Meaning.inlined, hacc, ht, Option.elim, applyBinary, hpending]
      cases t.pending <;> exact ⟨rfl, rfl⟩
  · cases ht : t.accumulator with
    | none => simpa only [Replay.after, Meaning.inlined, hacc, ht, Option.elim] using h
    | some x =>
      simp only [Replay.after, Meaning.inlined, hacc, ht, Option.elim, applyEquals, hpending]
      exact ⟨rfl, rfl⟩
  · exact ⟨rfl, hpending⟩
  · exact h

/-! ### Runs -/

/-- From states with the same values, a list and the inlined list lead to the same result and flag
or to the same error. -/
lemma Replay.SameValues.runEntriesIn {s t : Replay} (h : SameValues s t) (mode : Mode)
    (entries : List Entry) (source source' : σ) :
    ((Replay.runEntriesIn table bindings mode s entries source).1.map evaluation).map
        Evaluation.values =
      ((Replay.runEntriesIn table bindings mode t (inlined table bindings entries source)
        source').1.map evaluation).map Evaluation.values := by
  induction entries generalizing s t source source' with
  | nil => simp only [Replay.runEntriesIn, inlined, Except.map, h.values_eq]
  | cons entry rest ih =>
    rcases entry with step | typeName
    · simp only [Replay.runEntriesIn, inlined, meaning_inlined, objection?_inlined,
        h.objection?_eq, inlined_snd]
      cases t.objection? mode (step.meaning table bindings source).1 with
      | some e => rfl
      | none => exact ih (h.after _) _ _
    · rfl

/-- The draws of the executed steps stand in the inlined list. -/
lemma drawsOf_executedIn_eq (mode : Mode) (s : Replay) (entries : List Entry) (source : σ) :
    drawsOf table bindings (executedIn table bindings mode s entries source) source =
      ((executedIn table bindings mode s entries source).zip
        (inlined table bindings entries source)).filterMap (Step.answer? table) := by
  induction entries generalizing s source with
  | nil => rfl
  | cons entry rest ih =>
    rcases entry with step | typeName
    · have hnext : ∀ t, drawsOf table bindings (executedIn table bindings mode t rest
          (step.meaning table bindings source).2) (step.meaning table bindings source).2 =
          ((executedIn table bindings mode t rest (step.meaning table bindings source).2).zip
            (inlined table bindings rest (step.inlined table bindings source).2)).filterMap
              (Step.answer? table) := by
        intro t
        rw [inlined_snd, ih]
      simp only [executedIn, inlined, drawsOf, List.zip_cons_cons, List.filterMap_cons,
        answer?_inlined]
      cases s.objection? mode (step.meaning table bindings source).1 with
      | some e => cases step.draw? table source <;> rfl
      | none =>
        simp only [hnext]
        cases step.draw? table source <;> rfl
    · rfl

/-- Bindings that give the same values to all variables give the same meaning to all steps. -/
lemma meaning_eq_of_value_eq {b b' : Bindings} (h : ∀ name, b.value name = b'.value name)
    (step : Step) (source : σ) : step.meaning table b source = step.meaning table b' source := by
  rcases step with x | symbol | name
  · rfl
  · rfl
  · simp only [Step.meaning, h]

/-- Bindings that give the same values to all variables cannot be told apart. -/
lemma evaluateEntriesIn_eq_of_value_eq {b b' : Bindings} (h : ∀ name, b.value name = b'.value name)
    (mode : Mode) (entries : List Entry) (source : σ) :
    evaluateEntriesIn table b mode entries source =
      evaluateEntriesIn table b' mode entries source := by
  have hrun : ∀ s, Replay.runEntriesIn table b mode s entries source =
      Replay.runEntriesIn table b' mode s entries source := by
    induction entries generalizing source with
    | nil => exact fun _ => rfl
    | cons entry rest ih =>
      intro s
      rcases entry with step | typeName
      · simp only [Replay.runEntriesIn, meaning_eq_of_value_eq h, ih]
      · rfl
  simp only [evaluateEntriesIn_eq, hrun]

/-- Only the values of operands matter for the result. In every mode,

* a list and the inlined list have the same result and pending flag or the same error, whatever the
  source that the inlined list meets;
* the evaluation makes one draw for each custom symbol that it executes, in order, and the answers
  are the numbers in the inlined list;
* bindings that give the same values to all variables, unbound ones being zero, cannot be told
  apart, whether they are empty or not given at all. -/
theorem evaluateEntriesIn_inlined (table : Table σ) (bindings : Bindings) (mode : Mode)
    (entries : List Entry) (source : σ) :
    (∀ source', (evaluateEntriesIn table bindings mode entries source).1.map Evaluation.values =
        (evaluateEntriesIn table bindings mode (inlined table bindings entries source)
          source').1.map Evaluation.values) ∧
      (drawsIn table bindings mode entries source).map Prod.fst =
        (executedIn table bindings mode .start entries source).filterMap
          (Step.customSymbol? table) ∧
      drawsIn table bindings mode entries source =
        ((executedIn table bindings mode .start entries source).zip
          (inlined table bindings entries source)).filterMap (Step.answer? table) ∧
      ∀ given given' : Option Bindings,
        (∀ name, (Bindings.ofGiven given).value name = (Bindings.ofGiven given').value name) →
          evaluateEntriesIn table (Bindings.ofGiven given) mode entries source =
            evaluateEntriesIn table (Bindings.ofGiven given') mode entries source := by
  have hstart : Replay.SameValues .start .start := ⟨rfl, rfl⟩
  refine ⟨?_, ?_, ?_, ?_⟩
  · intro source'
    simp only [evaluateEntriesIn_eq]
    exact hstart.runEntriesIn mode entries source source'
  · rw [drawsIn_eq, map_fst_drawsOf]
  · rw [drawsIn_eq, drawsOf_executedIn_eq]
  · intro given given' h
    exact evaluateEntriesIn_eq_of_value_eq h mode entries source

/-- In `M + Rand ÷ x =` the quotient is refused because the variable `x` is unbound: the error names
the numbers, the random value behind the error is not drawn, and nothing of this depends on where
the numbers come from. -/
theorem evaluateEntriesIn_inlined_of_unbound_divisor :
    let table := Table.standard Supply.between
    let supply : Supply := { numbers := ⟨3, [15]⟩ }
    let memory : Bindings := OrderedMap.empty.insert "M" 2
    let zero : Bindings := OrderedMap.empty.insert "x" 0
    let entries : List Entry :=
      [.step (.variable "M"), .step (.operation "+"), .step (.operation "Rand"),
        .step (.operation "÷"), .step (.variable "x"), .step (.operation "="),
        .step (.operation "Rand")]
    let numbers : List Entry :=
      [.step (.number 2), .step (.operation "+"), .step (.number 250000), .step (.operation "÷"),
        .step (.number 0), .step (.operation "="), .step (.number 62500)]
    let e : CalculationError := ⟨.divisionByZero, "÷", [250002, 0], "division by zero"⟩
    inlined table memory entries supply = numbers ∧
      (evaluateEntriesIn table memory .strict entries supply).1 = .error (.calculation e) ∧
      (evaluateEntriesIn table memory .strict numbers {}).1.map Evaluation.values =
        .error (.calculation e) ∧
      drawsIn table memory .strict entries supply = [("Rand", 250000)] ∧
      (∀ name, (Bindings.ofGiven none).value name = (Bindings.ofGiven (some zero)).value name) ∧
      evaluateEntriesIn table (Bindings.ofGiven none) .strict entries supply =
        evaluateEntriesIn table (Bindings.ofGiven (some zero)) .strict entries supply := by
  intro table supply memory zero entries numbers e
  have hinlined : inlined table memory entries supply = numbers := by decide +kernel
  have herror : (evaluateEntriesIn table memory .strict entries supply).1 =
      .error (.calculation e) := by decide +kernel
  have hzero : ∀ name,
      (Bindings.ofGiven none).value name = (Bindings.ofGiven (some zero)).value name := by
    intro name
    simp only [Bindings.ofGiven, Option.getD_none, Option.getD_some, Bindings.value, zero,
      OrderedMap.get?_insert, OrderedMap.get?_empty]
    split <;> rfl
  obtain ⟨hnumbers, -, hdraws, hbindings⟩ :=
    evaluateEntriesIn_inlined table memory .strict entries supply
  refine ⟨hinlined, herror, ?_, ?_, hzero, hbindings none (some zero) hzero⟩
  · have hsame := hnumbers {}
    rw [hinlined, herror] at hsame
    exact hsame.symm
  · rw [hdraws]
    decide +kernel

end ReplayCalculator
