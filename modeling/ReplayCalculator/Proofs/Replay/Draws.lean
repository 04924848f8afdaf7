import Mathlib.Tactic.Lemma
import ReplayCalculator.Evaluation.Basic

/-!
# Steps by kind, and the draws they make

A step stands for an operation of some kind, for a number, for a variable, or for nothing at all.
Its kind says what it can do to a replay without a look at the state: only custom symbols use the
source of draws, and only numbers, variables, constants and custom symbols bring an operand.

The second half is about logs in which no custom symbol occurs. Their replay neither uses the
source nor changes it, in every mode (`runIn_of_customFree`), so that the two evaluations of such a
log are functions of the log and the bindings alone (`evaluateIn_of_customFree`,
`evaluate_of_customFree`).
-/

namespace ReplayCalculator

variable {σ : Type}

/-! ### Kinds of steps -/

/-- The kind of the operation that a step stands for, if the step is a known symbol. -/
def Step.kind? (table : Table σ) : Step → Option Kind
  | .operation symbol => (table.find? symbol).map Operation.kind
  | _ => none

/-- Whether a step brings an operand: a number, a variable, a constant or a custom symbol. -/
def Step.isOperand (table : Table σ) : Step → Bool
  | .operation symbol =>
    match table.find? symbol with
    | some found => found.kind = .constant || found.kind = .custom
    | none => false
  | _ => true

/-- No step of the list is a custom symbol. -/
def CustomFree (table : Table σ) (steps : List Step) : Prop :=
  ∀ step ∈ steps, step.kind? table ≠ some .custom

instance (table : Table σ) (steps : List Step) : Decidable (CustomFree table steps) :=
  inferInstanceAs (Decidable (∀ step ∈ steps, step.kind? table ≠ some .custom))

/-- A list is free of custom symbols exactly when its first step and the others are. -/
lemma customFree_cons {table : Table σ} {step : Step} {rest : List Step} :
    CustomFree table (step :: rest) ↔
      step.kind? table ≠ some .custom ∧ CustomFree table rest := by
  simp [CustomFree]

/-- What an operand can mean: the symbols among the operands are constants or custom symbols. -/
lemma meaning_of_isOperand {table : Table σ} {step : Step} (h : step.isOperand table = true)
    (bindings : Bindings) (source : σ) :
    (∃ x, (step.meaning table bindings source).1 = .number x) ∨
      (∃ name x, (step.meaning table bindings source).1 = .variable name x) ∨
      (∃ x, (step.meaning table bindings source).1 = .constant x) ∨
      ∃ x, (step.meaning table bindings source).1 = .drawn x := by
  rcases step with x | symbol | name
  · exact Or.inl ⟨x, rfl⟩
  · cases hfound : table.find? symbol with
    | none => simp [Step.isOperand, hfound] at h
    | some operation =>
      simp only [Step.isOperand, hfound] at h
      simp only [Step.meaning, hfound]
      rcases operation with x | f | f | _ | draw <;> simp [Operation.kind] at h
      · exact Or.inr (Or.inr (Or.inl ⟨x, rfl⟩))
      · exact Or.inr (Or.inr (Or.inr ⟨(draw source).1, rfl⟩))
  · exact Or.inr (Or.inl ⟨name, bindings.value name, rfl⟩)

/-! ### Replays without draws -/

/-- A step that is no custom symbol has the same meaning whatever the source, which it leaves as it
is. -/
lemma meaning_of_kind?_ne_custom {table : Table σ} {step : Step} (bindings : Bindings)
    (h : step.kind? table ≠ some .custom) (source source' : σ) :
    step.meaning table bindings source = ((step.meaning table bindings source').1, source) := by
  rcases step with x | symbol | name
  · rfl
  · cases hfound : table.find? symbol with
    | none => simp [Step.meaning, hfound]
    | some found =>
      cases found with
      | custom draw => exact absurd (by simp [Step.kind?, hfound, Operation.kind]) h
      | _ => simp [Step.meaning, hfound, Operation.meaning]
  · rfl

variable {table : Table σ} (bindings : Bindings)

/-- A replay without custom symbols ends in the same way whatever the source, which it leaves as it
is. -/
lemma runIn_of_customFree (mode : Mode) {steps : List Step} (h : CustomFree table steps)
    (s : Replay) (source source' : σ) :
    Replay.runIn table bindings mode s steps source =
      ((Replay.runIn table bindings mode s steps source').1, source) := by
  induction steps generalizing s with
  | nil => rfl
  | cons step rest ih =>
    obtain ⟨hstep, hrest⟩ := customFree_cons.mp h
    rw [Replay.runIn_cons, Replay.runIn_cons,
      meaning_of_kind?_ne_custom bindings hstep source source']
    cases s.objection? mode (step.meaning table bindings source').1 with
    | some e => rfl
    | none =>
      have hsource : (step.meaning table bindings source').2 = source' := by
        rw [meaning_of_kind?_ne_custom bindings hstep source' source']
      rw [hsource]
      exact ih hrest _

/-- The evaluation of steps without custom symbols is the same for all sources, in every mode. -/
lemma evaluateIn_of_customFree (mode : Mode) {steps : List Step} (h : CustomFree table steps)
    (source source' : σ) :
    evaluateIn table bindings mode steps source =
      ((evaluateIn table bindings mode steps source').1, source) := by
  simp only [evaluateIn]
  rw [runIn_of_customFree bindings mode h .start source source']

/-- The lenient evaluation of steps without custom symbols is the same for all sources. -/
lemma evaluate_of_customFree {steps : List Step} (h : CustomFree table steps)
    (source source' : σ) :
    evaluate table bindings steps source =
      ((evaluate table bindings steps source').1, source) := by
  have hrun := evaluateIn_of_customFree bindings .lenient h source source'
  rw [evaluateIn_lenient, evaluateIn_lenient] at hrun
  simpa [Prod.ext_iff] using hrun

end ReplayCalculator
