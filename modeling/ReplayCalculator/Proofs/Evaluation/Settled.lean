import ReplayCalculator.Evaluation.Entry
import ReplayCalculator.Operation.Feed
import ReplayCalculator.Proofs.Evaluation.Extension
import ReplayCalculator.Proofs.Replay.Draws
import ReplayCalculator.Proofs.Replay.Likeness

/-!
# Calculations in which nothing waits

A log is settled if no operation waits at its end. What follows an operand that is entered then owes
nothing to the log: `evaluateEntriesIn_append_operand` says that the outcome, be it an evaluation or
an error, is that of the operand and its continuation alone. The states of the two replays are alike
and need not be equal, since a number leaves the mark of the finished calculation in place.

An equals symbol behind a settled log does nothing but leave its own mark, and the two states are
alike again: `evaluateEntriesIn_append_equals` says that whatever follows has the outcome that it
has without the symbol. As a second equals symbol finds nothing that waits, or else is passed over
like the first one, it never makes a difference to a lenient evaluation.
-/

namespace ReplayCalculator

variable {σ : Type} {table : Table σ} {bindings : Bindings}

/-! ### Entering an operand -/

/-- No mode objects to an operand. -/
lemma objection?_meaning_of_isOperand {step : Step} (h : step.isOperand table = true)
    (bindings : Bindings) (mode : Mode) (s : Replay) (source : σ) :
    s.objection? mode (step.meaning table bindings source).1 = none := by
  obtain ⟨x, hm⟩ | ⟨name, x, hm⟩ | ⟨x, hm⟩ | ⟨x, hm⟩ := meaning_of_isOperand h bindings source <;>
    rw [hm] <;> cases mode <;> rfl

/-- Where nothing waits an operand builds a state like the one that it builds at the start. -/
lemma alike_after_of_isOperand {step : Step} (h : step.isOperand table = true) {s : Replay}
    (hs : s.Coherent) (hp : s.pending = none) (source : σ) :
    Replay.Alike (s.after (step.meaning table bindings source).1)
      (Replay.start.after (step.meaning table bindings source).1) := by
  have hoperand : ∀ x text mark, s.operand x text mark = Replay.start.operand x text mark := by
    intro x text mark
    simp [Replay.operand, Replay.describe, Replay.start, hp]
  have hdescribe : ∀ text, s.describe text = Replay.start.describe text := by
    intro text
    simp [Replay.describe, Replay.start, hp]
  have hlast := hs.last_ne_binary hp
  obtain ⟨x, hm⟩ | ⟨name, x, hm⟩ | ⟨x, hm⟩ | ⟨x, hm⟩ := meaning_of_isOperand h bindings source
  · rw [hm]
    refine ⟨rfl, hp, ?_, Or.inr ⟨hp, hlast, by simp [Replay.after, Replay.start]⟩⟩
    simp only [Replay.after, if_neg hlast]
    exact hdescribe (Number.shown x)
  · rw [hm]
    simpa only [Replay.after, hoperand, hdescribe] using Replay.Alike.refl _
  · rw [hm]
    simpa only [Replay.after, hoperand, hdescribe] using Replay.Alike.refl _
  · rw [hm]
    simpa only [Replay.after, hoperand, hdescribe] using Replay.Alike.refl _

/-! ### The law -/

/-- A settled log is forgotten by the evaluation of an operand and the steps behind it. -/
lemma evaluateIn_append_operand {mode : Mode} {log : List Step} {step : Step} {source : σ}
    {v : Evaluation} (hfree : CustomFree table log)
    (hlog : (evaluateIn table bindings mode log source).1 = .ok v) (hsettled : v.isPending = false)
    (hstep : step.isOperand table = true) (later : List Step) :
    evaluateIn table bindings mode (log ++ step :: later) source =
      evaluateIn table bindings mode (step :: later) source := by
  obtain ⟨s, source', hrun, rfl⟩ := exists_runIn_of_evaluateIn_eq_ok hlog
  have hsource : source' = source := by
    have hdraws := runIn_of_customFree bindings mode hfree .start source source
    rw [hrun] at hdraws
    exact congrArg Prod.snd hdraws
  subst hsource
  have hp : s.pending = none := by simpa [Replay.evaluation] using hsettled
  have hs : s.Coherent := Replay.coherent_of_runIn_eq_ok hrun
  have hnone := objection?_meaning_of_isOperand hstep bindings mode
  simp only [evaluateIn, Replay.runIn_append, hrun, Replay.runIn_cons, hnone]
  exact (alike_after_of_isOperand hstep hs hp source').runIn table bindings mode later _

/-- A finished calculation is forgotten: behind a log in which nothing waits, an operand and
whatever follows it have the outcome that they have alone. -/
theorem evaluateEntriesIn_append_operand {mode : Mode} {log : List Step} {step : Step} {source : σ}
    {v : Evaluation} (hfree : CustomFree table log)
    (hlog : (evaluateIn table bindings mode log source).1 = .ok v) (hsettled : v.isPending = false)
    (hstep : step.isOperand table = true) (later : List Entry) :
    evaluateEntriesIn table bindings mode (log.map .step ++ .step step :: later) source =
      evaluateEntriesIn table bindings mode (.step step :: later) source := by
  have hforget := evaluateIn_append_operand hfree hlog hsettled hstep
    (Entry.leadingSteps later).1
  simp only [evaluateEntriesIn, leadingSteps_append, Entry.leadingSteps, hforget]

/-- The square root of a sum is forgotten, although its mark is still there when the next number is
divided by zero. -/
theorem evaluateEntriesIn_append_operand_of_root :
    let table := Table.standard Supply.between
    let log : List Step :=
      [.number 3, .operation "+", .number 5, .operation "=", .operation "√"]
    let later : List Entry :=
      [.step (.operation "÷"), .step (.number 0), .step (.operation "="), .foreign "str"]
    let v : Evaluation := ⟨some (Float.sqrt (3 + 5)), false, "√(3+5)"⟩
    CustomFree table log ∧ (evaluateIn table .empty .strict log {}).1 = .ok v ∧
      v.isPending = false ∧ (Step.number 2).isOperand table = true ∧
      evaluateEntriesIn table .empty .strict (log.map .step ++ .step (.number 2) :: later) {} =
        evaluateEntriesIn table .empty .strict (.step (.number 2) :: later) {} := by
  intro table log later v
  have hfree : CustomFree table log := by decide +kernel
  have hlog : (evaluateIn table .empty .strict log {}).1 = .ok v := by rfl
  exact ⟨hfree, hlog, rfl, rfl, evaluateEntriesIn_append_operand hfree hlog rfl rfl later⟩

/-! ### Equals symbols -/

/-- The meaning of an equals symbol. -/
lemma meaning_equals {symbol : String} (h : table.get? symbol = some .equals) (bindings : Bindings)
    (source : σ) :
    (Step.operation symbol).meaning table bindings source = (.equals symbol, source) :=
  Step.meaning_of_get? h bindings source

/-- Where nothing waits, an equals symbol leaves its mark and nothing else. -/
lemma alike_after_equals {s : Replay} (hs : s.Coherent) (hp : s.pending = none) (symbol : String) :
    Replay.Alike (s.after (.equals symbol)) s := by
  have hlast := hs.last_ne_binary hp
  cases hacc : s.accumulator with
  | none =>
    have hskip : s.after (.equals symbol) = s := by simp only [Replay.after, hacc, Option.elim_none]
    rw [hskip]
    exact Replay.Alike.refl s
  | some x =>
    have hafter : s.after (.equals symbol) = s.applyEquals x := by
      simp only [Replay.after, hacc, Option.elim_some]
    rw [hafter]
    refine ⟨?_, ?_, ?_, Or.inr ⟨rfl, ?_, hlast⟩⟩
    · simp only [Replay.applyEquals, hp, Option.elim_none, hacc]
    · exact hp.symm
    · simp only [Replay.applyEquals, if_neg hlast]
    · simp [Replay.applyEquals]

/-- A second equals symbol leaves its mark at most: either nothing waits any more, or both are
passed over. -/
lemma alike_after_equals_equals {s : Replay} (hs : s.Coherent) (symbol : String) :
    Replay.Alike ((s.after (.equals symbol)).after (.equals symbol))
      (s.after (.equals symbol)) := by
  cases hacc : s.accumulator with
  | none =>
    have hskip : s.after (.equals symbol) = s := by simp only [Replay.after, hacc, Option.elim_none]
    rw [hskip, hskip]
    exact Replay.Alike.refl s
  | some x =>
    have hsettled : (s.after (.equals symbol)).pending = none := by
      simp only [Replay.after, hacc, Option.elim_some]
      rfl
    exact alike_after_equals (hs.after _) hsettled symbol

/-- No mode objects to an equals symbol where nothing waits, but for the strict one where there is
no operand. -/
lemma objection?_equals {mode : Mode} {s : Replay} (hp : s.pending = none)
    (hacc : mode = .strict → s.accumulator ≠ none) (symbol : String) :
    s.objection? mode (.equals symbol) = none := by
  have hviolation : s.violation? (.equals symbol) = none := by
    simp only [Replay.violation?, hp, Option.bind_none, Option.bind_fun_none]
  cases mode with
  | lenient => rfl
  | tolerant => exact hviolation
  | strict =>
    have hmissing : s.missing? (.equals symbol) = none := by
      simp only [Replay.missing?, Option.isNone_iff_eq_none, if_neg (hacc rfl)]
    simp only [Replay.objection?, hmissing, hviolation, Option.or_none]

/-- An equals symbol behind a settled log can be left out. -/
lemma evaluateIn_append_equals {mode : Mode} {log : List Step} {source : σ} {symbol : String}
    (hsymbol : table.get? symbol = some .equals)
    (hsettled : (evaluate table bindings log source).1.isPending = false)
    (hresult : mode = .strict → (evaluate table bindings log source).1.result ≠ none)
    (later : List Step) :
    evaluateIn table bindings mode (log ++ .operation symbol :: later) source =
      evaluateIn table bindings mode (log ++ later) source := by
  simp only [evaluateIn, Replay.runIn_append]
  rcases hrun : Replay.runIn table bindings mode .start log source with ⟨e | s, source'⟩
  · rfl
  · have hs : s.Coherent := Replay.coherent_of_runIn_eq_ok hrun
    have hlenient : (evaluate table bindings log source).1 = s.evaluation := by
      simp only [evaluate, Replay.run_eq_of_runIn_eq_ok hrun]
    rw [hlenient] at hsettled hresult
    have hp : s.pending = none := by simpa [Replay.evaluation] using hsettled
    simp only [Replay.runIn_cons, meaning_equals hsymbol, objection?_equals hp hresult]
    exact (alike_after_equals hs hp symbol).runIn table bindings mode later source'

/-- A second equals symbol can be left out of a lenient evaluation. -/
lemma evaluateIn_append_equals_equals (bindings : Bindings) (log : List Step) (source : σ)
    {symbol : String} (hsymbol : table.get? symbol = some .equals) (later : List Step) :
    evaluateIn table bindings .lenient (log ++ .operation symbol :: .operation symbol :: later)
        source =
      evaluateIn table bindings .lenient (log ++ .operation symbol :: later) source := by
  have hs := Replay.coherent_start.run table bindings log source
  simp only [evaluateIn, Replay.runIn_append]
  simp only [Replay.runIn_lenient table bindings .start log, Replay.runIn_cons,
    meaning_equals hsymbol, Replay.objection?]
  exact (alike_after_equals_equals hs symbol).runIn table bindings .lenient later _

/-- A list from outside is a list of steps, or it has a first value that is none. -/
lemma exists_eq_map_step_or_foreign (entries : List Entry) :
    (∃ steps : List Step, entries = steps.map .step) ∨
      ∃ (front : List Step) (typeName : String) (rest : List Entry),
        entries = front.map .step ++ .foreign typeName :: rest := by
  induction entries with
  | nil => exact Or.inl ⟨[], rfl⟩
  | cons entry rest ih =>
    rcases entry with step | typeName
    · rcases ih with ⟨steps, rfl⟩ | ⟨front, typeName, rest', rfl⟩
      · exact Or.inl ⟨step :: steps, rfl⟩
      · exact Or.inr ⟨step :: front, typeName, rest', rfl⟩
    · exact Or.inr ⟨[], typeName, rest, rfl⟩

/-- An equals symbol behind a log in which nothing waits is never noticed, whatever follows it: the
outcome and the draws are those without it. In the strict mode there has to be a result for it. And
in a lenient evaluation a second equals symbol is never noticed, whatever stands in front of the
first one. -/
theorem evaluateEntriesIn_append_equals (table : Table σ) (bindings : Bindings) (source : σ)
    {symbol : String} (hsymbol : table.get? symbol = some .equals) (later : List Entry) :
    (∀ log : List Step, (evaluate table bindings log source).1.isPending = false →
      ∀ mode, (mode = .strict → (evaluate table bindings log source).1.result ≠ none) →
        evaluateEntriesIn table bindings mode (log.map .step ++ .step (.operation symbol) :: later)
            source =
          evaluateEntriesIn table bindings mode (log.map .step ++ later) source) ∧
      ∀ log : List Entry,
        evaluateEntriesIn table bindings .lenient
            (log ++ .step (.operation symbol) :: .step (.operation symbol) :: later) source =
          evaluateEntriesIn table bindings .lenient (log ++ .step (.operation symbol) :: later)
            source := by
  refine ⟨fun log hsettled mode hresult => ?_, fun log => ?_⟩
  · have hequals := evaluateIn_append_equals hsymbol hsettled hresult (Entry.leadingSteps later).1
    simp only [evaluateEntriesIn, leadingSteps_append, Entry.leadingSteps, hequals]
  · rcases exists_eq_map_step_or_foreign log with ⟨steps, rfl⟩ | ⟨front, typeName, rest, rfl⟩
    · have hequals := evaluateIn_append_equals_equals bindings steps source hsymbol
        (Entry.leadingSteps later).1
      simp only [evaluateEntriesIn, leadingSteps_append, Entry.leadingSteps, hequals]
    · simp only [evaluateEntriesIn, List.append_assoc, List.cons_append, leadingSteps_append,
        Entry.leadingSteps]

/-- A sum that has its result is closed once more. The mark of the equals symbol is still there when
the next number is divided by the memory, which is not bound. A sum that still waits for its second
operand is closed in vain, twice or once. -/
theorem evaluateEntriesIn_append_equals_of_sum :
    let table := Table.standard Supply.between
    let log : List Step := [.number 3, .operation "+", .number 5, .operation "="]
    let waiting : List Entry := [.step (.number 3), .step (.operation "+")]
    let equals : Entry := .step (.operation "=")
    let later : List Entry :=
      [.step (.number 2), .step (.operation "÷"), .step (.variable "M"), equals, .foreign "str"]
    table.get? "=" = some .equals ∧ (evaluate table .empty log {}).1 = ⟨some 8, false, "3+5"⟩ ∧
      evaluateEntriesIn table .empty .strict (log.map .step ++ equals :: later) {} =
        evaluateEntriesIn table .empty .strict (log.map .step ++ later) {} ∧
      evaluateEntriesIn table .empty .lenient (waiting ++ equals :: equals :: later) {} =
        evaluateEntriesIn table .empty .lenient (waiting ++ equals :: later) {} := by
  intro table log waiting equals later
  have hequals : table.get? "=" = some .equals := rfl
  have hlog : (evaluate table .empty log {}).1 = ⟨some 8, false, "3+5"⟩ := by decide +kernel
  obtain ⟨hsettled, htwice⟩ :=
    evaluateEntriesIn_append_equals table .empty ({} : Supply) hequals later
  refine ⟨hequals, hlog, hsettled log ?_ .strict fun _ => ?_, htwice waiting⟩
  · rw [hlog]
  · rw [hlog]
    exact Option.some_ne_none _

end ReplayCalculator
