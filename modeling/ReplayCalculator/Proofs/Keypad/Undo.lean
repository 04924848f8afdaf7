import ReplayCalculator.Proofs.Evaluation.Idle
import ReplayCalculator.Proofs.Keypad.View

/-!
# Undoing an operation key

The erase key takes the last step away and refreshes the view, so that an operation key followed by
the erase key leaves log and memory as they were. The view is not taken back: it is computed once
more, and a refresh that finds neither an error nor a result leaves the text on the display that it
finds there.

Where the log has an error or a result, the second refresh displays what was displayed before the
key was pressed (`presentOutcome_presentOutcome`). Where it has neither, most symbols find no
operand and are passed over (`outcome_record_of_isIdle`), so that they leave the display as well. A
constant needs no operand: its value is displayed (`display_record_of_constant`), and stays on the
display when the key is undone.

The main statement `perform_operation_erase` says that this is the only difference that an undone
operation key can make; `display_operation_erase_of_constant` is a case of it.
-/

namespace ReplayCalculator

variable {σ : Type} {table : Table σ} {bindings : Bindings}

/-! ### One more step -/

/-- In the modes that do not ask for operands, an idle step at the end of a log changes nothing. -/
lemma runIn_append_of_isIdle {mode : Mode} (hmode : mode ≠ .strict) {steps : List Step}
    {source source' : σ} {s : Replay}
    (h : Replay.runIn table bindings mode .start steps source = (.ok s, source')) {step : Step}
    (hidle : step.isIdle table s = true) :
    Replay.runIn table bindings mode .start (steps ++ [step]) source = (.ok s, source') := by
  obtain ⟨m, hmeaning, hafter, hviolation⟩ := meaning_of_isIdle hidle bindings source'
  have hobjection : s.objection? mode m = none := by
    rcases mode with _ | _ | _
    · rfl
    · exact hviolation
    · exact absurd rfl hmode
  simp only [Replay.runIn_append, h, Replay.runIn_cons, hmeaning, hobjection, hafter,
    Replay.runIn_nil]

/-- A constant at the end of a log is its result, in every mode. -/
lemma runIn_append_constant {mode : Mode} {steps : List Step} {source source' : σ} {s : Replay}
    (h : Replay.runIn table bindings mode .start steps source = (.ok s, source')) {symbol : Symbol}
    {x : Float} (hsymbol : table.find? symbol = some (.constant x)) :
    Replay.runIn table bindings mode .start (steps ++ [.operation symbol]) source =
      (.ok (s.after (.constant x)), source') := by
  have hmeaning : (Step.operation symbol).meaning table bindings source' =
      (.constant x, source') := by
    simp only [Step.meaning, hsymbol]
    rfl
  have hobjection : s.objection? mode (.constant x) = none := by
    rcases mode with _ | _ | _ <;> rfl
  simp only [Replay.runIn_append, h, Replay.runIn_cons, hmeaning, hobjection, Replay.runIn_nil]

/-- Without an accumulator every symbol is idle, but for the constants and the custom symbols. -/
lemma isIdle_operation {s : Replay} (hacc : s.accumulator = none) {symbol : Symbol}
    (hcustom : (Step.operation symbol).kind? table ≠ some .custom)
    (hconstant : ∀ x, table.find? symbol ≠ some (.constant x)) :
    (Step.operation symbol).isIdle table s = true := by
  rcases hfound : table.find? symbol with _ | operation
  · simp only [Step.isIdle, hfound]
  · rcases operation with x | f | f | _ | draw
    · exact absurd hfound (hconstant x)
    · simp [Step.isIdle, hfound, Operation.kind, hacc]
    · simp [Step.isIdle, hfound, Operation.kind, hacc]
    · simp [Step.isIdle, hfound, Operation.kind, hacc]
    · exact absurd (by simp [Step.kind?, hfound, Operation.kind]) hcustom

namespace Keypad

/-! ### What a refresh shows -/

/-- What the replay of the log comes to: the error that it meets, if there is one, and the lenient
evaluation. -/
def outcome (table : Table σ) (k : Keypad) (source : σ) : Option CalculationError × Evaluation :=
  (match (evaluateIn table k.bindings k.mode k.log.steps source).1 with
    | .error e => some e
    | .ok _ => none,
    (evaluate table k.bindings k.log.steps source).1)

/-- The keypad with an outcome in view. -/
def presentOutcome (k : Keypad) (outcome : Option CalculationError × Evaluation) : Keypad :=
  k.present outcome.1 outcome.2

/-- There is something to display: an error or a result. -/
def IsConclusive (outcome : Option CalculationError × Evaluation) : Prop :=
  outcome.1 ≠ none ∨ outcome.2.result ≠ none

/-- Without custom symbols, a refresh shows the outcome of the replay and makes no draws. -/
lemma refresh_eq_presentOutcome {k : Keypad} (hfree : CustomFree table k.log.steps) (source : σ) :
    k.refresh table source = (k.presentOutcome (k.outcome table source), source) := by
  obtain ⟨error, hrefresh, herror⟩ := exists_refresh_eq hfree source
  have houtcome : k.outcome table source =
      (error, (evaluate table k.bindings k.log.steps source).1) := by
    simp only [← evaluateIn_mode_eq_error_iff] at herror
    unfold outcome
    rcases hout : (evaluateIn table k.bindings k.mode k.log.steps source).1 with e | v
    · rw [(herror e).mpr hout]
    · rcases error with _ | e
      · rfl
      · rw [(herror e).mp rfl] at hout
        cases hout
  rw [hrefresh, houtcome]
  rfl

/-- What was in view before is gone, if there is something to display. -/
lemma presentOutcome_presentOutcome (k : Keypad) (before : Option CalculationError × Evaluation)
    {o : Option CalculationError × Evaluation} (h : IsConclusive o) :
    (k.presentOutcome before).presentOutcome o = k.presentOutcome o := by
  obtain ⟨error, result, isPending, description⟩ := o
  rcases error with _ | e
  · rcases result with _ | x
    · simp [IsConclusive] at h
    · rfl
  · rfl

/-- Showing an outcome once more changes nothing. -/
lemma presentOutcome_self (k : Keypad) (o : Option CalculationError × Evaluation) :
    (k.presentOutcome o).presentOutcome o = k.presentOutcome o := by
  obtain ⟨error, result, isPending, description⟩ := o
  rcases error with _ | e
  · rcases result with _ | x <;> rfl
  · rfl

/-- If there is nothing to display, then the display stays, and all else that was in view before is
gone. -/
lemma presentOutcome_of_not_isConclusive (k : Keypad)
    (before : Option CalculationError × Evaluation) {o : Option CalculationError × Evaluation}
    (h : ¬ IsConclusive o) :
    (k.presentOutcome before).presentOutcome o =
      { k.presentOutcome o with display := (k.presentOutcome before).display } := by
  obtain ⟨error, result, isPending, description⟩ := o
  rcases error with _ | e
  · rcases result with _ | x
    · rfl
    · simp [IsConclusive] at h
  · simp [IsConclusive] at h

/-! ### Outcomes with one more step -/

/-- A replay that its mode does not stop comes to the evaluation of its last state. -/
lemma outcome_of_runIn {k : Keypad} {source source' : σ} {s : Replay}
    (h : Replay.runIn table k.bindings k.mode .start k.log.steps source = (.ok s, source')) :
    k.outcome table source = (none, s.evaluation) := by
  simp only [outcome, evaluateIn, evaluate, h, Replay.run_eq_of_runIn_eq_ok h, Except.map]

/-- Where there is nothing to display, the replay ends in a state without an accumulator. -/
lemma exists_runIn_of_not_isConclusive {k : Keypad} {source : σ}
    (h : ¬ IsConclusive (k.outcome table source)) :
    ∃ s source', Replay.runIn table k.bindings k.mode .start k.log.steps source = (.ok s, source') ∧
      s.accumulator = none := by
  rcases hrun : Replay.runIn table k.bindings k.mode .start k.log.steps source with ⟨e | s, source'⟩
  · simp [IsConclusive, outcome, evaluateIn, hrun, Except.map] at h
  · refine ⟨s, source', rfl, ?_⟩
    rw [outcome_of_runIn hrun] at h
    simpa [IsConclusive, Replay.evaluation] using h

/-- A keypad does not ask for operands. -/
lemma mode_ne_strict (k : Keypad) : k.mode ≠ .strict := by
  unfold mode
  split <;> decide

/-- Where there is nothing to display, a symbol that is neither a constant nor a custom symbol
changes nothing about that. -/
lemma outcome_record_of_isIdle {k : Keypad} {source : σ} {symbol : Symbol}
    (h : ¬ IsConclusive (k.outcome table source))
    (hcustom : (Step.operation symbol).kind? table ≠ some .custom)
    (hconstant : ∀ x, table.find? symbol ≠ some (.constant x)) :
    (k.record (.operation symbol)).outcome table source = k.outcome table source := by
  obtain ⟨s, source', hrun, hacc⟩ := exists_runIn_of_not_isConclusive h
  have hmore :=
    runIn_append_of_isIdle k.mode_ne_strict hrun (isIdle_operation hacc hcustom hconstant)
  rw [outcome_of_runIn hrun]
  exact outcome_of_runIn (k := k.record (.operation symbol)) hmore

/-- Where there is nothing to display, a constant is displayed. -/
lemma display_record_of_constant {k : Keypad} {source : σ} {symbol : Symbol} {x : Float}
    (h : ¬ IsConclusive (k.outcome table source))
    (hsymbol : table.find? symbol = some (.constant x)) :
    (k.presentOutcome ((k.record (.operation symbol)).outcome table source)).display =
      Number.shown x := by
  obtain ⟨s, source', hrun, -⟩ := exists_runIn_of_not_isConclusive h
  have hmore := runIn_append_constant hrun hsymbol
  rw [outcome_of_runIn (k := k.record (.operation symbol)) hmore]
  rfl

/-! ### Undone keys -/

/-- An operation key and the erase key, pressed one after the other where nothing is being typed:
two refreshes of the same keypad, the first one with the symbol in the log. -/
lemma perform_operation_erase_eq {k : Keypad} {source : σ} {symbol : Symbol}
    (htyping : k.typing = false) (hfree : CustomFree table k.log.steps)
    (hcustom : (Step.operation symbol).kind? table ≠ some .custom) :
    k.perform table source [.operation symbol, .erase] =
      ((k.presentOutcome ((k.record (.operation symbol)).outcome table source)).presentOutcome
        (k.outcome table source), source) := by
  have hmore : CustomFree table (k.record (.operation symbol)).log.steps := by
    intro step hstep
    rcases List.mem_append.mp hstep with hold | hnew
    · exact hfree step hold
    · rw [List.mem_singleton.mp hnew]
      exact hcustom
  have hpress : k.act table source (.operation symbol) =
      ((k.record (.operation symbol)).presentOutcome
        ((k.record (.operation symbol)).outcome table source), source) := by
    have hcommit : k.commit = k := by simp [commit, htyping]
    simp only [act, operation, hcommit]
    exact refresh_eq_presentOutcome hmore source
  have hlog : ((k.record (.operation symbol)).presentOutcome
      ((k.record (.operation symbol)).outcome table source)).log.removeLast.2 = k.log :=
    congrArg Prod.snd (Log.removeLast_append k.log (.operation symbol))
  have herase : ((k.record (.operation symbol)).presentOutcome
      ((k.record (.operation symbol)).outcome table source)).act table source .erase =
        (k.presentOutcome ((k.record (.operation symbol)).outcome table source)).refresh table
          source := by
    simp only [act, erase, hlog]
    rw [if_neg]
    · rfl
    · exact Bool.eq_false_iff.mp htyping
  simp only [perform, hpress, herase]
  exact refresh_eq_presentOutcome
    (k := k.presentOutcome ((k.record (.operation symbol)).outcome table source)) hfree source

/-- After a key press that refreshes the view, nothing is being typed, and the view is the outcome
of the replay. -/
lemma view_of_refreshes {k : Keypad} {source : σ} {a : Action} (hrefreshes : k.refreshes a = true)
    (hfree : CustomFree table (k.act table source a).1.log.steps) :
    let next := k.act table source a
    next.1.typing = false ∧ next.1.presentOutcome (next.1.outcome table next.2) = next.1 := by
  intro next
  obtain ⟨j, hj, hact⟩ : ∃ j, k.Turns j ∧ next = j.refresh table source :=
    exists_act_eq_refresh hrefreshes source
  have htyping := hj.typing
  have hlog : CustomFree table j.log.steps := by
    rw [← refresh_log table j source, ← hact]
    exact hfree
  rw [hact, refresh_eq_presentOutcome hlog source]
  exact ⟨htyping, presentOutcome_self j _⟩

/-- An operation key that is pressed after the view was refreshed, and then undone by the erase key,
leaves everything as it was, the display included, with one exception. If the log has neither an
error nor a result and the symbol is that of a constant, then the constant stays on the display;
log, memory, description, flag and error are as before in this case, too. -/
theorem perform_operation_erase (table : Table σ) (before : Keypad) (source : σ) {a : Action}
    (hrefreshes : before.refreshes a = true)
    (hfree : CustomFree table (before.act table source a).1.log.steps) {symbol : Symbol}
    (hcustom : (Step.operation symbol).kind? table ≠ some .custom) :
    let k := (before.act table source a).1
    let source' := (before.act table source a).2
    let result := (evaluate table k.bindings k.log.steps source').1.result
    let undone := k.perform table source' [.operation symbol, .erase]
    ((k.error ≠ none ∨ result ≠ none ∨ ∀ x, table.find? symbol ≠ some (.constant x)) →
        undone = (k, source') ∧ undone.1.snapshot = k.snapshot) ∧
      ∀ x, k.error = none → result = none → table.find? symbol = some (.constant x) →
        undone = ({ k with display := Number.shown x }, source') := by
  intro k source' result undone
  obtain ⟨htyping, hview⟩ : k.typing = false ∧ k.presentOutcome (k.outcome table source') = k :=
    view_of_refreshes hrefreshes hfree
  have herror : k.error = (k.outcome table source').1 := congrArg error hview.symm
  have hundone : undone =
      ((k.presentOutcome ((k.record (.operation symbol)).outcome table source')).presentOutcome
        (k.outcome table source'), source') :=
    perform_operation_erase_eq htyping hfree hcustom
  by_cases hconclusive : IsConclusive (k.outcome table source')
  · have hsame : undone = (k, source') := by
      rw [presentOutcome_presentOutcome _ _ hconclusive, hview] at hundone
      exact hundone
    refine ⟨fun _ => ⟨hsame, by rw [hsame]⟩, fun x hnone hresult => ?_⟩
    rcases hconclusive with hne | hne
    · exact absurd (herror.symm.trans hnone) hne
    · exact absurd hresult hne
  · rw [presentOutcome_of_not_isConclusive _ _ hconclusive, hview] at hundone
    refine ⟨fun hcases => ?_, fun x _ _ hconstant => ?_⟩
    · have hconstant : ∀ x, table.find? symbol ≠ some (.constant x) := by
        rcases hcases with hne | hne | hconstant
        · exact absurd (Or.inl (herror ▸ hne)) hconclusive
        · exact absurd (Or.inr hne) hconclusive
        · exact hconstant
      have hsame : undone = (k, source') := by
        rw [outcome_record_of_isIdle hconclusive hcustom hconstant, hview] at hundone
        exact hundone
      exact ⟨hsame, by rw [hsame]⟩
    · rw [display_record_of_constant hconclusive hconstant] at hundone
      exact hundone

/-- One was divided by zero, and the error is shown. The key of a constant is pressed and undone:
the error is still shown, and the keypad is as it was. -/
theorem perform_operation_erase_of_division :
    let table := Table.standard Supply.between
    let before := ((new true).perform table ({} : Supply)
      [.digit "1", .operation "÷", .digit "0"]).1
    let k := (before.act table {} (.operation "=")).1
    let undone := k.perform table (before.act table {} (.operation "=")).2 [.operation "π", .erase]
    before.refreshes (.operation "=") = true ∧ CustomFree table k.log.steps ∧
      (Step.operation "π").kind? table ≠ some .custom ∧ k.error ≠ none ∧
      k.display = "Error: division by zero" ∧ undone.1.snapshot = k.snapshot := by
  intro table before k undone
  have hrefreshes : before.refreshes (.operation "=") = true := rfl
  have hfree : CustomFree table k.log.steps := by decide +kernel
  have hcustom : (Step.operation "π").kind? table ≠ some .custom := by decide +kernel
  have herror : k.error ≠ none := by decide +kernel
  have hdisplay : k.display = "Error: division by zero" := by decide +kernel
  -- the key presses are computed above; below, the keypad that they lead to is an arbitrary one
  clear_value before
  have hsame := (perform_operation_erase table before {} hrefreshes hfree hcustom).1 (Or.inl herror)
  exact ⟨hrefreshes, hfree, hcustom, herror, hdisplay, hsame.2⟩

/-- Five is to be added to something. The key of a constant is pressed and undone, and the constant
is still displayed, so that the store key would bind the memory to it. -/
theorem display_operation_erase_of_constant :
    let table := Table.standard Supply.between
    let before := ((new true).perform table ({} : Supply) [.digit "5"]).1
    let k := (before.act table {} (.operation "+")).1
    let undone := (k.perform table {} [.operation "π", .erase]).1
    before.refreshes (.operation "+") = true ∧ CustomFree table k.log.steps ∧
      (Step.operation "π").kind? table ≠ some .custom ∧
      k.snapshot.display = "5" ∧ undone.snapshot.display = "3.141593" ∧
      undone.log.steps = k.log.steps ∧ undone.snapshot.display ≠ k.snapshot.display := by
  decide +kernel

end Keypad

end ReplayCalculator
