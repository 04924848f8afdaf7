import Mathlib.Tactic.Lemma
import ReplayCalculator.Proofs.Replay.Invariant

/-!
# Evaluations of a log and of its extensions

What the evaluation of a log in some mode says about the lenient evaluation, and about the logs that
begin with it:

* an evaluation that succeeds in some mode is the lenient one (`evaluate_eq_of_evaluateIn_eq_ok`);
* an error stays the same under every extension of the log (`evaluateIn_append_of_error`);
* if only the last step brings a tolerant evaluation to its error, then the log without that step
  has a result (`exists_result_of_last_error`), since only operands that are there can be refused;
* the errors of tolerant evaluations are domain errors (`domain_mem_lineage_of_evaluateIn`).
-/

namespace ReplayCalculator

variable {σ : Type} {table : Table σ} {bindings : Bindings}

/-! ### Success -/

/-- An evaluation comes from the state in which the replay ends. -/
lemma exists_runIn_of_evaluateIn_eq_ok {mode : Mode} {steps : List Step} {source : σ}
    {v : Evaluation} (h : (evaluateIn table bindings mode steps source).1 = .ok v) :
    ∃ s source', Replay.runIn table bindings mode .start steps source = (.ok s, source') ∧
      s.evaluation = v := by
  simp only [evaluateIn] at h
  rcases hrun : Replay.runIn table bindings mode .start steps source with ⟨_ | s, source'⟩
  · simp [hrun, Except.map] at h
  · simp only [hrun, Except.map, Except.ok.injEq] at h
    exact ⟨s, source', rfl, h⟩

/-- An evaluation that succeeds in some mode is the lenient evaluation. -/
lemma evaluate_eq_of_evaluateIn_eq_ok {mode : Mode} {steps : List Step} {source : σ}
    {v : Evaluation} (h : (evaluateIn table bindings mode steps source).1 = .ok v) :
    (evaluate table bindings steps source).1 = v := by
  obtain ⟨s, source', hrun, rfl⟩ := exists_runIn_of_evaluateIn_eq_ok h
  simp only [evaluate, Replay.run_eq_of_runIn_eq_ok hrun]

/-! ### Failure -/

/-- An error of an evaluation is that of the replay. -/
lemma evaluateIn_eq_error_iff {mode : Mode} {steps : List Step} {source : σ}
    {e : CalculationError} :
    (evaluateIn table bindings mode steps source).1 = .error e ↔
      (Replay.runIn table bindings mode .start steps source).1 = .error e := by
  simp only [evaluateIn]
  rcases Replay.runIn table bindings mode .start steps source with ⟨_ | s, source'⟩ <;>
    simp [Except.map]

/-- An error stays the same under every extension of the log. -/
lemma evaluateIn_append_of_error {mode : Mode} {steps : List Step} {source : σ}
    {e : CalculationError} (h : (evaluateIn table bindings mode steps source).1 = .error e)
    (later : List Step) :
    (evaluateIn table bindings mode (steps ++ later) source).1 = .error e := by
  rw [evaluateIn_eq_error_iff] at h ⊢
  rw [Replay.runIn_append]
  rcases hrun : Replay.runIn table bindings mode .start steps source with ⟨e' | s, source'⟩
  · rw [hrun] at h
    exact h
  · rw [hrun] at h
    cases h

/-- If a tolerant evaluation fails only at the last step, then the log without that step has a
result. -/
lemma exists_result_of_last_error {steps : List Step} {step : Step} {source : σ} {v : Evaluation}
    {e : CalculationError} (hok : (evaluateIn table bindings .tolerant steps source).1 = .ok v)
    (herror : (evaluateIn table bindings .tolerant (steps ++ [step]) source).1 = .error e) :
    ∃ x, v.result = some x := by
  obtain ⟨s, source', hrun, rfl⟩ := exists_runIn_of_evaluateIn_eq_ok hok
  rw [evaluateIn_eq_error_iff, Replay.runIn_append, hrun] at herror
  simp only [Replay.runIn_cons, Replay.runIn_nil] at herror
  cases hobj : s.objection? .tolerant (step.meaning table bindings source').1 with
  | none => simp [hobj] at herror
  | some e' => exact Replay.accumulator_of_violation? hobj

/-- A replay stops at an objection to some meaning. -/
lemma exists_objection?_of_runIn_eq_error {mode : Mode} {s : Replay} {steps : List Step}
    {source : σ} {e : CalculationError}
    (h : (Replay.runIn table bindings mode s steps source).1 = .error e) :
    ∃ (t : Replay) (m : Meaning), t.objection? mode m = some e := by
  induction steps generalizing s source with
  | nil => cases h
  | cons step rest ih =>
    rw [Replay.runIn_cons] at h
    cases hobj : s.objection? mode (step.meaning table bindings source).1 with
    | some e' =>
      rw [hobj] at h
      cases h
      exact ⟨s, _, hobj⟩
    | none =>
      rw [hobj] at h
      exact ih h

/-- An objection to operands is a domain error. -/
lemma domain_mem_lineage_of_violation? {s : Replay} {m : Meaning} {e : CalculationError}
    (h : s.violation? m = some e) : .domain ∈ e.kind.lineage := by
  have hviolation : ∀ symbol operands reason,
      .domain ∈ (CalculationError.violation symbol operands reason).kind.lineage := by
    intro symbol operands reason
    simp only [CalculationError.violation]
    split <;> decide
  have hpending : ∀ (y : Float) (p : Pending) (e : CalculationError), p.violation? y = some e →
      .domain ∈ e.kind.lineage := by
    intro y p e hp
    obtain ⟨reason, -, rfl⟩ := Option.map_eq_some_iff.mp hp
    exact hviolation _ _ _
  cases m with
  | unary symbol f =>
    obtain ⟨x, -, hx⟩ := Option.bind_eq_some_iff.mp h
    obtain ⟨reason, -, rfl⟩ := Option.map_eq_some_iff.mp hx
    exact hviolation _ _ _
  | binary symbol f =>
    obtain ⟨y, -, hy⟩ := Option.bind_eq_some_iff.mp h
    obtain ⟨p, -, hp⟩ := Option.bind_eq_some_iff.mp hy
    exact hpending y p e hp
  | equals symbol =>
    obtain ⟨y, -, hy⟩ := Option.bind_eq_some_iff.mp h
    obtain ⟨p, -, hp⟩ := Option.bind_eq_some_iff.mp hy
    exact hpending y p e hp
  | _ => simp [Replay.violation?] at h

/-- The errors of tolerant evaluations are domain errors. -/
lemma domain_mem_lineage_of_evaluateIn {steps : List Step} {source : σ} {e : CalculationError}
    (h : (evaluateIn table bindings .tolerant steps source).1 = .error e) :
    .domain ∈ e.kind.lineage := by
  obtain ⟨t, m, hobj⟩ := exists_objection?_of_runIn_eq_error (evaluateIn_eq_error_iff.mp h)
  exact domain_mem_lineage_of_violation? hobj

end ReplayCalculator
