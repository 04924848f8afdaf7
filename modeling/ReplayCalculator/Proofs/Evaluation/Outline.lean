import Mathlib.Tactic.Lemma
import ReplayCalculator.Evaluation.Status
import ReplayCalculator.Operation.Feed

/-!
# What the kinds of the steps decide

Whether a calculation has a result, and whether an operation waits in it, can be told without
computing anything. The *role* of a step is what remains of it when values and texts are forgotten,
and the *outline* of a calculation is the state that a machine with two flags reaches on the roles
of its steps. `outline_after` is the step of the refinement and `outline_run` the run: the replay
goes through states with the outlines that the machine goes through, whatever the table, the
bindings and the draws.

The two flags are never both down once an operand was met (`isTouched_foldl`): a result is given up
only to an operation that waits for the next one. So a calculation is empty exactly if it has no
operand at all. The main statement `status_eq` puts this together with the last step that has a
meaning.
-/

namespace ReplayCalculator

/-! ### Roles and outlines -/

/-- What a step does to a calculation, apart from values and texts. -/
inductive Role
  | operand
  | unary
  | binary
  | equals
  | unknown
  deriving DecidableEq, Repr

/-- The role of a symbol whose operation is of this kind. -/
def Kind.role : Kind → Role
  | constant => .operand
  | unary => .unary
  | binary => .binary
  | equals => .equals
  | custom => .operand

/-- The role of a step under a table. -/
def Step.role {σ : Type} (table : Table σ) : Step → Role
  | .operation symbol => (table.find? symbol).elim .unknown fun found => found.kind.role
  | _ => .operand

/-- Whether a calculation has a result, and whether an operation waits in it. -/
structure Outline where
  hasResult : Bool := false
  isPending : Bool := false
  deriving DecidableEq, Repr

/-- The outline after a step. The first binary symbol takes the result away; a later one replaces
the operation that waits, and the result stays. -/
def Outline.next (o : Outline) : Role → Outline
  | .operand => { o with hasResult := true }
  | .binary =>
    if o.hasResult then
      if o.isPending then o else { hasResult := false, isPending := true }
    else o
  | .equals => if o.hasResult then { o with isPending := false } else o
  | .unary => o
  | .unknown => o

/-- The outline of a calculation whose steps have these roles. -/
def Outline.ofRoles (roles : List Role) : Outline := roles.foldl Outline.next {}

/-- The outline of a replay state. -/
def Replay.outline (s : Replay) : Outline := ⟨s.accumulator.isSome, s.pending.isSome⟩

/-- The role of a step that has this meaning. -/
def Meaning.role : Meaning → Role
  | .number _ => .operand
  | .variable _ _ => .operand
  | .constant _ => .operand
  | .drawn _ => .operand
  | .unary _ _ => .unary
  | .binary _ _ => .binary
  | .equals _ => .equals
  | .unknown => .unknown

variable {σ : Type} {table : Table σ} {bindings : Bindings}

/-- The role of a step is that of its meaning, whatever is bound and drawn. -/
lemma role_meaning (step : Step) (source : σ) :
    (step.meaning table bindings source).1.role = step.role table := by
  rcases step with x | symbol | name
  · rfl
  · simp only [Step.meaning, Step.role]
    rcases table.find? symbol with _ | operation
    · rfl
    · rcases operation with _ | _ | _ | _ | _ <;> rfl
  · rfl

/-! ### The machine and the replay -/

/-- A meaning changes the outline of a state as its role says. -/
lemma outline_after (s : Replay) (m : Meaning) : (s.after m).outline = s.outline.next m.role := by
  rcases m with x | ⟨name, x⟩ | x | ⟨symbol, f⟩ | ⟨symbol, f⟩ | symbol | x | _
  · rfl
  · rfl
  · rfl
  · rcases hacc : s.accumulator with _ | x <;>
      simp [Replay.after, Replay.applyUnary, Replay.outline, Outline.next, Meaning.role, hacc]
  · rcases hacc : s.accumulator with _ | x
    · simp [Replay.after, Replay.outline, Outline.next, Meaning.role, hacc]
    · rcases hpending : s.pending with _ | p <;>
        simp [Replay.after, Replay.applyBinary, Replay.outline, Outline.next, Meaning.role, hacc,
          hpending]
  · rcases hacc : s.accumulator with _ | x <;>
      simp [Replay.after, Replay.applyEquals, Replay.outline, Outline.next, Meaning.role, hacc]
  · rfl
  · rfl

/-- A replay goes through states with the outlines that the machine goes through. -/
lemma outline_run (s : Replay) (steps : List Step) (source : σ) :
    (Replay.run table bindings s steps source).1.outline =
      (steps.map (Step.role table)).foldl Outline.next s.outline := by
  induction steps generalizing s source with
  | nil => rfl
  | cons step rest ih =>
    rw [Replay.run_cons, ih, outline_after, role_meaning]
    rfl

/-- Result and pending flag of an evaluation are the outline of its steps. -/
lemma outline_evaluate (table : Table σ) (bindings : Bindings) (steps : List Step) (source : σ) :
    (evaluate table bindings steps source).1.result.isSome =
        (Outline.ofRoles (steps.map (Step.role table))).hasResult ∧
      (evaluate table bindings steps source).1.isPending =
        (Outline.ofRoles (steps.map (Step.role table))).isPending := by
  have hrun : (Replay.run table bindings .start steps source).1.outline =
      Outline.ofRoles (steps.map (Step.role table)) := outline_run .start steps source
  exact ⟨congrArg Outline.hasResult hrun, congrArg Outline.isPending hrun⟩

/-! ### Calculations with an operand -/

/-- There is a result, or an operation waits. -/
def Outline.isTouched (o : Outline) : Bool := o.hasResult || o.isPending

/-- Operands touch an outline, and no step takes that back. -/
lemma isTouched_next (o : Outline) (role : Role) :
    (o.next role).isTouched = (o.isTouched || decide (role = .operand)) := by
  obtain ⟨_ | _, _ | _⟩ := o <;> rcases role with _ | _ | _ | _ | _ <;> rfl

/-- An outline is touched exactly if it was before or there is an operand. -/
lemma isTouched_foldl (o : Outline) (roles : List Role) :
    (roles.foldl Outline.next o).isTouched = (o.isTouched || decide (.operand ∈ roles)) := by
  induction roles generalizing o with
  | nil => simp
  | cons role rest ih =>
    rw [List.foldl_cons, ih, isTouched_next, Bool.or_assoc]
    simp [eq_comm]

/-! ### The last step that has a meaning -/

/-- The step is the last one that has a meaning: behind it there are unknown symbols alone. -/
def LastKnown (table : Table σ) (steps : List Step) (step : Step) : Prop :=
  ∃ front back, steps = front ++ step :: back ∧ step.role table ≠ .unknown ∧
    ∀ later ∈ back, later.role table = .unknown

/-- The status of a calculation in which nothing waits, by the last step that has a meaning. -/
def Status.ofLast : Step → Status
  | .operation _ => .resolved
  | .number _ => .operandOnly
  | .variable _ => .operandOnly

/-- The steps that have a meaning are those that are no unknown symbols. -/
lemma isKnown_iff {step : Step} : step.isKnown table = true ↔ step.role table ≠ .unknown := by
  rcases step with x | symbol | name
  · simp [Step.isKnown, Step.role]
  · simp only [Step.isKnown, Step.role]
    rcases table.find? symbol with _ | operation
    · simp
    · rcases operation with _ | _ | _ | _ | _ <;> simp [Operation.kind, Kind.role]
  · simp [Step.isKnown, Step.role]

/-- The last step that has a meaning is the last one when all others are left out. -/
lemma lastKnown_iff {steps : List Step} {step : Step} :
    LastKnown table steps step ↔ (steps.filter (Step.isKnown table)).getLast? = some step := by
  simp only [List.getLast?_eq_some_iff, List.filter_eq_append_iff, List.filter_eq_cons_iff,
    List.filter_eq_nil_iff, isKnown_iff, Decidable.not_not]
  constructor
  · rintro ⟨front, back, rfl, hknown, hback⟩
    exact ⟨_, front, step :: back, rfl, rfl, [], back, rfl, by simp, hknown, hback⟩
  · rintro ⟨-, front, -, rfl, -, unknown, back, rfl, -, hknown, hback⟩
    exact ⟨front ++ unknown, back, by simp, hknown, hback⟩

/-- Whether a list ends in an operation is a question about the last step that has a meaning. -/
lemma endsInOperation_of_lastKnown {steps : List Step} {step : Step}
    (h : LastKnown table steps step) :
    (if endsInOperation table steps then Status.resolved else .operandOnly) = .ofLast step := by
  simp only [endsInOperation, lastKnown_iff.mp h]
  rcases step with x | symbol | name <;> rfl

/-- A list with an operand has a last step that has a meaning. -/
lemma exists_lastKnown {steps : List Step} (h : ∃ step ∈ steps, step.role table = .operand) :
    ∃ step, LastKnown table steps step := by
  obtain ⟨step, hmem, hrole⟩ := h
  have hknown : step ∈ steps.filter (Step.isKnown table) := by
    refine List.mem_filter.mpr ⟨hmem, isKnown_iff.mpr ?_⟩
    rw [hrole]
    decide
  refine ⟨_, lastKnown_iff.mpr (List.getLast?_eq_some_getLast (List.ne_nil_of_mem hknown))⟩

/-! ### Unknown symbols -/

/-- An unknown symbol changes neither the replay nor the draws, wherever it stands. -/
lemma run_append_unknown {symbol : Symbol} (h : table.find? symbol = none) (s : Replay)
    (front back : List Step) (source : σ) :
    Replay.run table bindings s (front ++ .operation symbol :: back) source =
      Replay.run table bindings s (front ++ back) source := by
  rw [Replay.run_append, Replay.run_append, Replay.run_cons]
  simp only [Step.meaning, h]
  rfl

/-- An unknown symbol changes the status nowhere. -/
lemma status_append_unknown {symbol : Symbol} (h : table.find? symbol = none)
    (front back : List Step) (source : σ) :
    status table bindings (front ++ .operation symbol :: back) source =
      status table bindings (front ++ back) source := by
  have hknown : (Step.operation symbol).isKnown table = false := by simp [Step.isKnown, h]
  simp only [status, evaluate, endsInOperation, run_append_unknown h, List.filter_append,
    List.filter_cons, hknown, Bool.false_eq_true, if_false]

/-! ### The status -/

/-- The status of a calculation is that of its outline, and of the last step that has a meaning if
there is a result for which nothing waits. -/
lemma status_fst (table : Table σ) (bindings : Bindings) (steps : List Step) (source : σ) :
    (status table bindings steps source).1 =
      if (Outline.ofRoles (steps.map (Step.role table))).isPending then .operationPending
      else if (Outline.ofRoles (steps.map (Step.role table))).hasResult then
        if endsInOperation table steps then .resolved else .operandOnly
      else .empty := by
  obtain ⟨hresult, hpending⟩ := outline_evaluate table bindings steps source
  rw [← hresult, ← hpending]
  simp only [status]
  rcases (evaluate table bindings steps source).1.result with _ | x <;> rfl

/-- There is a result or an operation that waits exactly if some step brings an operand. -/
lemma isTouched_ofRoles_iff (table : Table σ) (steps : List Step) :
    (Outline.ofRoles (steps.map (Step.role table))).isTouched = true ↔
      ∃ step ∈ steps, step.role table = .operand := by
  have htouched := isTouched_foldl {} (steps.map (Step.role table))
  rw [Outline.ofRoles, htouched]
  simp [Outline.isTouched]

variable (table bindings) (steps : List Step) (source : σ)

/-- An operation waits in a calculation if one does in its outline. -/
lemma status_eq_operationPending_iff :
    (status table bindings steps source).1 = .operationPending ↔
      (Outline.ofRoles (steps.map (Step.role table))).isPending = true := by
  rw [status_fst]
  constructor
  · intro h
    split at h
    · assumption
    · split at h
      · split at h <;> cases h
      · cases h
  · intro h
    rw [if_pos h]

/-- A calculation is empty if no step brings an operand. -/
lemma status_eq_empty_iff :
    (status table bindings steps source).1 = .empty ↔
      ∀ step ∈ steps, step.role table ≠ .operand := by
  have huntouched : (∀ step ∈ steps, step.role table ≠ .operand) ↔
      ¬ (Outline.ofRoles (steps.map (Step.role table))).isTouched = true := by
    rw [isTouched_ofRoles_iff]
    simp only [not_exists, not_and, ne_eq]
  rw [huntouched, status_fst, Outline.isTouched, Bool.or_eq_true]
  constructor
  · rintro h (hresult | hpending)
    · rw [if_pos hresult] at h
      split at h
      · cases h
      · split at h <;> cases h
    · rw [if_pos hpending] at h
      cases h
  · intro h
    rw [if_neg fun hpending => h (Or.inr hpending), if_neg fun hresult => h (Or.inl hresult)]

/-- Any other calculation has a last step that has a meaning, and its status is told by that
step. -/
lemma status_eq_ofLast (hpending : (status table bindings steps source).1 ≠ .operationPending)
    (hempty : (status table bindings steps source).1 ≠ .empty) :
    (∃ step, LastKnown table steps step) ∧
      ∀ step, LastKnown table steps step →
        (status table bindings steps source).1 = .ofLast step := by
  constructor
  · apply exists_lastKnown
    refine Decidable.byContradiction fun hnone => hempty ?_
    rw [status_eq_empty_iff]
    exact fun step hmem hrole => hnone ⟨step, hmem, hrole⟩
  · intro step hstep
    rw [← endsInOperation_of_lastKnown hstep]
    rw [status_fst] at hpending hempty ⊢
    split
    · rename_i hwaiting
      exact absurd (if_pos hwaiting) hpending
    · rename_i hnotWaiting
      split
      · rfl
      · rename_i hnone
        exact absurd ((if_neg hnotWaiting).trans (if_neg hnone)) hempty

/-- Whether there is a result and whether an operation waits is told by the roles of the steps, and
so is the status of a calculation:

* an operation waits if the machine says so;
* the calculation is empty if no step brings an operand;
* otherwise the last step that has a meaning tells whether it is resolved or an operand only, and
  there is such a step.

Unknown symbols make no difference, wherever they stand. -/
theorem status_eq :
    ((evaluate table bindings steps source).1.result.isSome =
          (Outline.ofRoles (steps.map (Step.role table))).hasResult ∧
        (evaluate table bindings steps source).1.isPending =
          (Outline.ofRoles (steps.map (Step.role table))).isPending) ∧
      ((status table bindings steps source).1 = .operationPending ↔
        (Outline.ofRoles (steps.map (Step.role table))).isPending = true) ∧
      ((status table bindings steps source).1 = .empty ↔
        ∀ step ∈ steps, step.role table ≠ .operand) ∧
      ((status table bindings steps source).1 ≠ .operationPending →
        (status table bindings steps source).1 ≠ .empty →
        (∃ step, LastKnown table steps step) ∧
          ∀ step, LastKnown table steps step →
            (status table bindings steps source).1 = .ofLast step) ∧
      ∀ front back symbol, steps = front ++ back → table.find? symbol = none →
        status table bindings (front ++ .operation symbol :: back) source =
          status table bindings steps source := by
  refine ⟨outline_evaluate table bindings steps source, ?_, ?_, ?_, ?_⟩
  · exact status_eq_operationPending_iff table bindings steps source
  · exact status_eq_empty_iff table bindings steps source
  · exact status_eq_ofLast table bindings steps source
  · rintro front back symbol rfl hsymbol
    exact status_append_unknown hsymbol front back source

/-- The status is that of the variable in front of the unknown symbol, although constants and
operations were met before. -/
example :
    let table := Table.standard Supply.between
    let steps : List Step :=
      [.operation "=", .operation "π", .operation "√", .operation "+", .operation "Rand",
        .operation "=", .variable "M", .operation "?"]
    (Outline.ofRoles (steps.map (Step.role table))) = ⟨true, false⟩ ∧
      (status table .empty steps {}).1 = .operandOnly := by
  decide +kernel

end ReplayCalculator
