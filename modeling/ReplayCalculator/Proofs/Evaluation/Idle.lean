import Mathlib.Tactic.Lemma
import ReplayCalculator.Operation.Feed
import ReplayCalculator.Proofs.Evaluation.Course
import ReplayCalculator.Proofs.Evaluation.Extension
import ReplayCalculator.Proofs.Evaluation.Failure

/-!
# Steps that a replay passes over

Some steps do nothing to a lenient replay: unknown symbols, and symbols that need an operand where
there is none. Such steps are *idle*. Whether a step is idle depends on the state in which it is
met, and so on all steps in front of it.

A state is left as it is by an idle step, with its mark and its description, and no draw is made;
and in the tolerant mode there is nothing to object to (`meaning_of_isIdle`). Every other step finds
the operand that it needs (`missing?_of_not_isIdle`), so that the strict mode has no more to object
to than the tolerant one. These two facts are all that the run needs: `runEntriesIn_withoutIdle`
compares a list in one mode with the same list without its idle steps in another mode. Both lists go
through the same states, although places are counted differently in them.

The main statement `evaluateEntriesIn_withoutIdle` says that idle steps can be deleted, and that the
tolerant mode is then the strict one.
-/

namespace ReplayCalculator

variable {σ : Type} (table : Table σ) (bindings : Bindings)

/-! ### Idle steps -/

/-- Whether a step is passed over in this state: it is an unknown symbol, or a symbol that needs an
operand and finds none. -/
def Step.isIdle (s : Replay) : Step → Bool
  | .operation symbol =>
    match table.find? symbol with
    | none => true
    | some found =>
      (found.kind = .unary || found.kind = .binary || found.kind = .equals) && s.accumulator.isNone
  | _ => false

/-- The list without the steps that are idle in its lenient replay from the state `s`. -/
def withoutIdle : Replay → List Entry → σ → List Entry
  | _, [], _ => []
  | s, .foreign typeName :: rest, source => .foreign typeName :: withoutIdle s rest source
  | s, .step step :: rest, source =>
    let later := withoutIdle (s.after (step.meaning table bindings source).1) rest
      (step.meaning table bindings source).2
    if step.isIdle table s then later else .step step :: later

variable {table bindings}

/-- An idle step leaves state and source as they are, and there is nothing to object to its
operands. -/
lemma meaning_of_isIdle {s : Replay} {step : Step} (h : step.isIdle table s = true)
    (bindings : Bindings) (source : σ) :
    ∃ m, step.meaning table bindings source = (m, source) ∧ s.after m = s ∧
      s.violation? m = none := by
  rcases step with x | symbol | name
  · simp [Step.isIdle] at h
  · rcases hfound : table.find? symbol with _ | operation
    · refine ⟨.unknown, ?_, rfl, rfl⟩
      simp only [Step.meaning, hfound]
    · simp only [Step.isIdle, hfound, Bool.and_eq_true, Option.isNone_iff_eq_none] at h
      obtain ⟨hkind, hacc⟩ := h
      simp only [Step.meaning, hfound]
      rcases operation with x | f | f | _ | draw
      · simp [Operation.kind] at hkind
      · exact ⟨.unary symbol.text f, rfl, by simp [Replay.after, hacc],
          by simp [Replay.violation?, hacc]⟩
      · exact ⟨.binary symbol.text f, rfl, by simp [Replay.after, hacc],
          by simp [Replay.violation?, hacc]⟩
      · exact ⟨.equals symbol.text, rfl, by simp [Replay.after, hacc],
          by simp [Replay.violation?, hacc]⟩
      · simp [Operation.kind] at hkind
  · simp [Step.isIdle] at h

/-- A step that is not idle finds the operand that it needs. -/
lemma missing?_of_not_isIdle {s : Replay} {step : Step} (h : step.isIdle table s = false)
    (bindings : Bindings) (source : σ) :
    s.missing? (step.meaning table bindings source).1 = none := by
  rcases step with x | symbol | name
  · rfl
  · rcases hfound : table.find? symbol with _ | operation
    · simp [Step.isIdle, hfound] at h
    · refine Option.eq_none_iff_forall_ne_some.mpr fun c hc => ?_
      simp only [Step.meaning, hfound] at hc
      obtain ⟨hkind, hacc, -⟩ := missing?_meaning_eq_some_iff.mp hc
      rcases hkind with hkind | hkind | hkind <;> simp [Step.isIdle, hfound, hacc, hkind] at h
  · rfl

/-! ### Runs -/

/-- A list in one mode and the list without its idle steps in another mode have the same outcome,
provided that the one mode does not object to idle steps and that the two modes object to the same
in all others. -/
lemma runEntriesIn_withoutIdle {mode mode' : Mode}
    (hidle : ∀ (s : Replay) (step : Step) (source : σ), step.isIdle table s = true →
      s.objection? mode (step.meaning table bindings source).1 = none)
    (hkept : ∀ (s : Replay) (step : Step) (source : σ), step.isIdle table s = false →
      s.objection? mode' (step.meaning table bindings source).1 =
        s.objection? mode (step.meaning table bindings source).1)
    (s : Replay) (entries : List Entry) (source : σ) :
    Replay.runEntriesIn table bindings mode' s
        (withoutIdle table bindings s entries source) source =
      Replay.runEntriesIn table bindings mode s entries source := by
  induction entries generalizing s source with
  | nil => rfl
  | cons entry rest ih =>
    rcases entry with step | typeName
    · by_cases h : step.isIdle table s = true
      · -- Both runs stand in the same state behind the step, which only one of them has seen.
        have hnone := hidle s step source h
        obtain ⟨m, hm, hafter, -⟩ := meaning_of_isIdle h bindings source
        rw [hm] at hnone
        simp only [withoutIdle, h, if_true, Replay.runEntriesIn, hm, hafter, hnone]
        exact ih s source
      · have h' := Bool.not_eq_true _ ▸ h
        simp only [withoutIdle, h', Bool.false_eq_true, if_false, Replay.runEntriesIn,
          hkept s step source h']
        rcases s.objection? mode (step.meaning table bindings source).1 with _ | c
        · exact ih _ _
        · rfl
    · rfl

/-- The errors of a tolerant evaluation of a list are never those of missing operands. -/
lemma kind_ne_missingOperand_of_tolerant {entries : List Entry} {source : σ} {c : CalculationError}
    (h : (evaluateEntriesIn table bindings .tolerant entries source).1 = .error (.calculation c)) :
    c.kind ≠ .missingOperand := by
  have hsteps : (evaluateIn table bindings .tolerant (Entry.leadingSteps entries).1 source).1 =
      .error c := by
    simp only [evaluateEntriesIn] at h
    rcases hout : evaluateIn table bindings .tolerant (Entry.leadingSteps entries).1 source with
      ⟨c' | v, source'⟩
    · simpa [hout] using h
    · rw [hout] at h
      rcases hforeign : (Entry.leadingSteps entries).2 with _ | typeName <;> simp [hforeign] at h
  have hdomain := domain_mem_lineage_of_evaluateIn hsteps
  intro hkind
  rw [hkind] at hdomain
  exact absurd hdomain (by decide)

/-- Idle steps can be deleted. The lenient evaluation stays the same, and the tolerant evaluation of
a list is the strict one of the list without its idle steps, be it an evaluation or an error. So the
strict mode never finds an operand missing there. In each case the sources are left in the same
state too. -/
theorem evaluateEntriesIn_withoutIdle (table : Table σ) (bindings : Bindings) (entries : List Entry)
    (source : σ) :
    let kept := withoutIdle table bindings .start entries source
    evaluateEntriesIn table bindings .lenient kept source =
        evaluateEntriesIn table bindings .lenient entries source ∧
      evaluateEntriesIn table bindings .strict kept source =
        evaluateEntriesIn table bindings .tolerant entries source ∧
      ∀ c, (evaluateEntriesIn table bindings .strict kept source).1 = .error (.calculation c) →
        c.kind ≠ .missingOperand := by
  intro kept
  have hlenient : evaluateEntriesIn table bindings .lenient kept source =
      evaluateEntriesIn table bindings .lenient entries source := by
    rw [evaluateEntriesIn_eq, evaluateEntriesIn_eq,
      runEntriesIn_withoutIdle (fun _ _ _ _ => rfl) (fun _ _ _ _ => rfl)]
  have hstrict : evaluateEntriesIn table bindings .strict kept source =
      evaluateEntriesIn table bindings .tolerant entries source := by
    rw [evaluateEntriesIn_eq, evaluateEntriesIn_eq, runEntriesIn_withoutIdle]
    · intro s step source' h
      obtain ⟨m, hm, -, hviolation⟩ := meaning_of_isIdle h bindings source'
      rw [hm]
      exact hviolation
    · intro s step source' h
      simp only [Replay.objection?, missing?_of_not_isIdle h, Option.none_or]
  refine ⟨hlenient, hstrict, fun c hc => ?_⟩
  rw [hstrict] at hc
  exact kind_ne_missingOperand_of_tolerant hc

example :
    withoutIdle (Table.standard Supply.between) .empty .start
        [.step (.operation "√"), .step (.number 5), .step (.operation "+"), .step (.operation "×"),
          .step (.operation "?"), .step (.number 3), .step (.operation "=")] {} =
      [.step (.number 5), .step (.operation "+"), .step (.number 3), .step (.operation "=")] := by
  decide +kernel

end ReplayCalculator
