import ReplayCalculator.Operation.Feed
import ReplayCalculator.Proofs.Evaluation.Extension
import ReplayCalculator.Proofs.Operation.Rejection

/-!
# The domain errors of the calculator

A domain error names an operation of the table and operands that this operation rejects. For an
operation of one operand this can be read off the key that fails. An operation of two operands fails
at a later key, and that the error names the right one is an invariant of the replay: what waits is
an operation of the table, with its own symbol (`Registered`). So for every table domain errors are
rejections (`rejects_of_evaluateIn_eq_error`).

The rejections by operations of the calculator are those on the list of `Unacceptable`, neither more
nor fewer (`rejects_standard_iff`). The main statement `unacceptable_of_evaluateIn_eq_error` puts
the two together.
-/

namespace ReplayCalculator

variable {σ : Type} {table : Table σ} {bindings : Bindings}

/-! ### What waits -/

/-- What waits for its second operand is an operation of the table, with its symbol. -/
def Registered (table : Table σ) (s : Replay) : Prop :=
  ∀ p, s.pending = some p → table.get? p.symbol = some (.binary p.function)

/-- Nothing waits at the start. -/
lemma registered_start (table : Table σ) : Registered table .start := by
  intro p hp
  cases hp

/-- What a step can mean: a number, the value of a variable, nothing, or what an operation of the
table means. -/
lemma meaning_cases (table : Table σ) (bindings : Bindings) (step : Step) (source : σ) :
    (∃ x, step = .number x ∧ (step.meaning table bindings source).1 = .number x) ∨
      (∃ name, (step.meaning table bindings source).1 = .variable name (bindings.value name)) ∨
      (step.meaning table bindings source).1 = .unknown ∨
      ∃ symbol operation, table.get? symbol = some operation ∧
        (step.meaning table bindings source).1 = (operation.meaning symbol source).1 := by
  rcases step with x | symbol | name
  · exact Or.inl ⟨x, rfl, rfl⟩
  · rcases hfound : table.find? symbol with _ | operation
    · exact Or.inr (Or.inr (Or.inl (by simp only [Step.meaning, hfound])))
    · obtain ⟨text, rfl, hget⟩ := Table.find?_eq_some_iff.mp hfound
      exact Or.inr (Or.inr (Or.inr ⟨text, operation, hget,
        congrArg Prod.fst (Step.meaning_of_get? hget bindings source)⟩))
  · exact Or.inr (Or.inl ⟨name, rfl⟩)

/-- No step makes anything wait but an operation of the table. -/
lemma Registered.after {s : Replay} (h : Registered table s) (step : Step) (source : σ) :
    Registered table (s.after (step.meaning table bindings source).1) := by
  rcases meaning_cases table bindings step source with
    ⟨x, -, hm⟩ | ⟨name, hm⟩ | hm | ⟨symbol, operation, hfound, hm⟩ <;> rw [hm]
  · exact h
  · exact h
  · exact h
  · rcases operation with x | f | f | _ | draw
    · exact h
    · rcases hacc : s.accumulator with _ | x <;>
        simp only [Operation.meaning, Replay.after, hacc, Option.elim] <;> exact h
    · rcases hacc : s.accumulator with _ | x <;>
        simp only [Operation.meaning, Replay.after, hacc, Option.elim]
      · exact h
      · intro p hp
        rcases hpending : s.pending with _ | q <;>
          simp only [Replay.applyBinary, hpending] at hp <;> cases hp <;> exact hfound
    · rcases hacc : s.accumulator with _ | x <;>
        simp only [Operation.meaning, Replay.after, hacc, Option.elim]
      · exact h
      · intro p hp
        cases hp
    · exact h

/-! ### Errors are rejections -/

/-- `Rejects table e`: the error names an operation of the table, operands in the number that this
operation takes, and the reason for which the operation rejects them. -/
inductive Rejects (table : Table σ) : CalculationError → Prop
  | unary {symbol : String} {f : Unary} {x : Float} {reason : String}
      (hfound : table.get? symbol = some (.unary f))
      (hreject : Rejection (f.refusal? x) (f.function x) reason) :
      Rejects table ⟨.ofReason reason, symbol, [x], reason⟩
  | binary {symbol : String} {f : Binary} {x y : Float} {reason : String}
      (hfound : table.get? symbol = some (.binary f))
      (hreject : Rejection (f.refusal? x y) (f.function x y) reason) :
      Rejects table ⟨.ofReason reason, symbol, [x, y], reason⟩

/-- The error of a step that fails in a state is a rejection, unless an operand is missing. -/
lemma Registered.rejects {s : Replay} (h : Registered table s) {mode : Mode} {step : Step}
    {source : σ} {e : CalculationError} (hdomain : .domain ∈ e.kind.lineage)
    (hobjection : s.objection? mode (step.meaning table bindings source).1 = some e) :
    Rejects table e := by
  have hfailure : Failure table mode s (.step step) (.calculation e) :=
    (failure_step_iff bindings source).mpr ⟨e, hobjection, rfl⟩
  rcases hfailure with ⟨-, -, -, -⟩ | ⟨-, hfound, -, hreject⟩ | ⟨-, -, -, -, hpending, hreject⟩
  · simp [ErrorKind.lineage] at hdomain
  · exact .unary hfound hreject
  · exact .binary (h _ hpending) hreject

/-- The domain errors of a replay are rejections. -/
lemma Registered.rejects_of_runIn {s : Replay} (h : Registered table s) {mode : Mode}
    {steps : List Step} {source : σ} {e : CalculationError} (hdomain : .domain ∈ e.kind.lineage)
    (herror : (Replay.runIn table bindings mode s steps source).1 = .error e) :
    Rejects table e := by
  induction steps generalizing s source with
  | nil => cases herror
  | cons step rest ih =>
    rw [Replay.runIn_cons] at herror
    rcases hobjection : s.objection? mode (step.meaning table bindings source).1 with _ | e'
    · rw [hobjection] at herror
      exact ih (h.after step source) herror
    · rw [hobjection] at herror
      cases herror
      exact h.rejects hdomain hobjection

/-- Whatever the table, the domain errors of an evaluation are rejections by operations of the
table. -/
theorem rejects_of_evaluateIn_eq_error {mode : Mode} {steps : List Step} {source : σ}
    {e : CalculationError} (herror : (evaluateIn table bindings mode steps source).1 = .error e)
    (hdomain : .domain ∈ e.kind.lineage) : Rejects table e :=
  (registered_start table).rejects_of_runIn hdomain (evaluateIn_eq_error_iff.mp herror)

/-! ### The errors of the calculator -/

namespace Table

open Arithmetic Binary64

variable {between : Nat → Nat → σ → Nat × σ}

/-- What is on the list is rejected by an operation of the table. -/
lemma Unacceptable.rejects {symbol : String} {operands : List Float} {reason : String}
    (h : Unacceptable symbol operands reason) :
    Rejects (standard between) ⟨.ofReason reason, symbol, operands, reason⟩ := by
  rcases h with ⟨x, hy⟩ | hx | hx | ⟨rfl | rfl, hx⟩ | ⟨rfl | rfl | rfl, hx⟩ |
    ⟨⟨rfl, rfl⟩ | ⟨rfl, rfl⟩, hx, hy⟩
  · exact .binary rfl (rejection_nonZero_iff.mpr ⟨hy, rfl⟩)
  · exact .unary rfl (rejection_nonZero_iff.mpr ⟨hx, rfl⟩)
  · exact .unary rfl (rejection_squareRoot_iff.mpr ⟨hx, rfl⟩)
  · exact .unary rfl (rejection_logarithm_iff.mpr ⟨hx, rfl⟩)
  · exact .unary rfl (rejection_logarithm_iff.mpr ⟨hx, rfl⟩)
  · exact .unary rfl (rejection_trigonometric_iff.mpr ⟨hx, rfl⟩)
  · exact .unary rfl (rejection_trigonometric_iff.mpr ⟨hx, rfl⟩)
  · exact .unary rfl (rejection_trigonometric_iff.mpr ⟨hx, rfl⟩)
  · exact .unary rfl (rejection_exponential_iff.mpr ⟨hx, hy, rfl⟩)
  · exact .unary rfl (rejection_exponential_iff.mpr ⟨hx, hy, rfl⟩)

/-- The rejections by the operations of the calculator are those on the list. -/
theorem rejects_standard_iff {e : CalculationError} :
    Rejects (standard between) e ↔
      Unacceptable e.operator e.operands e.reason ∧ e.kind = .ofReason e.reason := by
  constructor
  · rintro (⟨hfound, hreject⟩ | ⟨hfound, hreject⟩)
    · exact ⟨unacceptable_of_rejection_unary hfound hreject, rfl⟩
    · exact ⟨unacceptable_of_rejection_binary hfound hreject, rfl⟩
  · obtain ⟨kind, operator, operands, reason⟩ := e
    rintro ⟨h, hkind⟩
    obtain rfl : kind = .ofReason reason := hkind
    exact h.rejects

/-- The domain errors of the calculator, in either checked mode and for all logs, bindings and
draws: such an error is on the list of what the operations reject; it is a division by zero exactly
if the operator is one of the two divisions; the operands are as many as the operator takes; and the
operand of an operation of one operand is a number, and so is the divisor. -/
theorem unacceptable_of_evaluateIn_eq_error {bindings : Bindings} {mode : Mode} {steps : List Step}
    {source : σ} {e : CalculationError}
    (herror : (evaluateIn (standard between) bindings mode steps source).1 = .error e)
    (hdomain : .domain ∈ e.kind.lineage) :
    Unacceptable e.operator e.operands e.reason ∧
      (e.kind = .divisionByZero ↔ e.operator = "÷" ∨ e.operator = "x⁻¹") ∧
      (∃ operation, (standard between).get? e.operator = some operation ∧
        ((operation.kind = .unary ∧ ∃ x, e.operands = [x] ∧ datum x ≠ .notANumber) ∨
          (operation.kind = .binary ∧ ∃ x y, e.operands = [x, y] ∧ datum y ≠ .notANumber))) := by
  have hrejects := rejects_of_evaluateIn_eq_error herror hdomain
  obtain ⟨hunacceptable, hkind⟩ := rejects_standard_iff.mp hrejects
  refine ⟨hunacceptable, by rw [hkind, hunacceptable.ofReason_eq_divisionByZero_iff], ?_⟩
  have hnumber := hunacceptable.datum_getLast_ne
  rcases hrejects with ⟨hfound, -⟩ | ⟨hfound, -⟩
  · exact ⟨_, hfound, Or.inl ⟨rfl, _, rfl, hnumber _ rfl⟩⟩
  · exact ⟨_, hfound, Or.inr ⟨rfl, _, _, rfl, hnumber _ rfl⟩⟩

/-- Eight is divided by negative zero, and the sum that comes next brings the error to light. -/
theorem unacceptable_of_evaluateIn_eq_error_of_quotient :
    let table := Table.standard Supply.between
    let steps : List Step :=
      [.number 8, .operation "÷", .number 0, .operation "±", .operation "+", .number 1]
    let e : CalculationError := ⟨.divisionByZero, "÷", [8, -0], "division by zero"⟩
    (evaluateIn table .empty .tolerant steps ({} : Supply)).1 = .error e ∧
      .domain ∈ e.kind.lineage ∧ Unacceptable e.operator e.operands e.reason ∧
      (e.kind = .divisionByZero ↔ e.operator = "÷" ∨ e.operator = "x⁻¹") := by
  intro table steps e
  have herror : (evaluateIn table .empty .tolerant steps ({} : Supply)).1 = .error e := by
    rfl
  have hdomain : .domain ∈ e.kind.lineage := by decide
  obtain ⟨hunacceptable, hkind, -⟩ := unacceptable_of_evaluateIn_eq_error herror hdomain
  exact ⟨herror, hdomain, hunacceptable, hkind⟩

end Table

end ReplayCalculator
