import Mathlib.Tactic.Lemma
import ReplayCalculator.Proofs.Replay.Strictness

/-!
# The invariant of replay states

The four fields of a replay state are written by different meanings, and not every combination of
them is met. `Replay.Coherent` says which are: a binary mark is there only while an operation waits,
an equals mark only while none does, and a state without an accumulator is either untouched or has
just met its first binary symbol.

`Coherent.after` shows that no meaning leaves the coherent states, and `Coherent.run` that no
lenient replay does. A replay in a mode that does not stop is the lenient one, so that this holds of
it as well (`coherent_of_runIn_eq_ok`).
-/

namespace ReplayCalculator

namespace Replay

/-- What holds of the fields of every state that a replay reaches. -/
structure Coherent (s : Replay) : Prop where
  /-- After a binary symbol some operation waits, and the description ends in its symbol. -/
  waiting_of_binary : s.last = some (.operation .binary) →
    ∃ p text, s.pending = some p ∧ s.description = text ++ p.symbol
  /-- After an equals symbol no operation waits. -/
  settled_of_equals : s.last = some (.operation .equals) → s.pending = none
  /-- Nothing has happened yet if there is no accumulator and no operation waits. -/
  untouched_of_none : s.accumulator = none → s.pending = none →
    s.last = none ∧ s.description = ""
  /-- The accumulator is missing while an operation waits only right after its symbol. -/
  binary_of_none : s.accumulator = none → s.pending ≠ none → s.last = some (.operation .binary)

/-- The state before the first step is coherent. -/
lemma coherent_start : start.Coherent where
  waiting_of_binary := by intro h; simp [start] at h
  settled_of_equals := by intro h; simp [start] at h
  untouched_of_none := fun _ _ => ⟨rfl, rfl⟩
  binary_of_none := fun _ h => absurd rfl h

/-- A coherent state in which nothing waits has no binary mark. -/
lemma Coherent.last_ne_binary {s : Replay} (h : s.Coherent) (hp : s.pending = none) :
    s.last ≠ some (.operation .binary) := by
  intro hlast
  obtain ⟨p, text, hsome, -⟩ := h.waiting_of_binary hlast
  rw [hp] at hsome
  cases hsome

/-! ### One step -/

/-- An operand with a mark that is neither a binary nor an equals mark gives a coherent state. -/
lemma coherent_operand (s : Replay) (x : Float) (text : String) {mark : Mark}
    (hb : mark ≠ .operation .binary) (he : mark ≠ .operation .equals) :
    (s.operand x text mark).Coherent where
  waiting_of_binary := fun h => absurd (Option.some.inj h) hb
  settled_of_equals := fun h => absurd (Option.some.inj h) he
  untouched_of_none := by intro h; simp [operand] at h
  binary_of_none := by intro h; simp [operand] at h

/-- An operation of one operand gives a coherent state. -/
lemma coherent_applyUnary (s : Replay) (symbol : String) (f : Unary) (x : Float) :
    (s.applyUnary symbol f x).Coherent where
  waiting_of_binary := by intro h; simp [applyUnary] at h
  settled_of_equals := by intro h; simp [applyUnary] at h
  untouched_of_none := by intro h; simp [applyUnary] at h
  binary_of_none := by intro h; simp [applyUnary] at h

/-- An operation of two operands gives a coherent state: it waits, and its symbol was written
last. -/
lemma coherent_applyBinary (s : Replay) (symbol : String) (f : Binary) (x : Float) :
    (s.applyBinary symbol f x).Coherent := by
  cases hp : s.pending with
  | none =>
    simp only [applyBinary, hp]
    exact ⟨fun _ => ⟨_, _, rfl, rfl⟩, by simp, by simp, by simp⟩
  | some p =>
    simp only [applyBinary, hp]
    exact ⟨fun _ => ⟨_, _, rfl, rfl⟩, by simp, by simp, by simp⟩

/-- An equals symbol gives a coherent state. -/
lemma coherent_applyEquals (s : Replay) (x : Float) : (s.applyEquals x).Coherent where
  waiting_of_binary := by intro h; simp [applyEquals] at h
  settled_of_equals := fun _ => rfl
  untouched_of_none := by intro h; simp [applyEquals] at h
  binary_of_none := by intro h; simp [applyEquals] at h

/-- A number keeps a state coherent: it leaves the mark, and the description after a binary
symbol. -/
lemma Coherent.after_number {s : Replay} (h : s.Coherent) (x : Float) :
    (s.after (.number x)).Coherent where
  waiting_of_binary := by
    intro hlast
    have hlast' : s.last = some (.operation .binary) := hlast
    simpa [after, hlast'] using h.waiting_of_binary hlast'
  settled_of_equals := h.settled_of_equals
  untouched_of_none := by intro hnone; simp [after] at hnone
  binary_of_none := by intro hnone; simp [after] at hnone

/-- No meaning leaves the coherent states. -/
lemma Coherent.after {s : Replay} (h : s.Coherent) (m : Meaning) : (s.after m).Coherent := by
  rcases m with x | ⟨name, x⟩ | x | ⟨symbol, f⟩ | ⟨symbol, f⟩ | symbol | x | _
  · exact h.after_number x
  · exact coherent_operand s x name (by decide) (by decide)
  · exact coherent_operand s x _ (by decide) (by decide)
  · cases hacc : s.accumulator with
    | none => simpa [Replay.after, hacc] using h
    | some x => simpa [Replay.after, hacc] using coherent_applyUnary s symbol f x
  · cases hacc : s.accumulator with
    | none => simpa [Replay.after, hacc] using h
    | some x => simpa [Replay.after, hacc] using coherent_applyBinary s symbol f x
  · cases hacc : s.accumulator with
    | none => simpa [Replay.after, hacc] using h
    | some x => simpa [Replay.after, hacc] using coherent_applyEquals s x
  · exact coherent_operand s x _ (by decide) (by decide)
  · exact h

/-! ### Objections -/

/-- Operands are objected to only where there is an accumulator. -/
lemma accumulator_of_violation? {s : Replay} {m : Meaning} {e : CalculationError}
    (h : s.violation? m = some e) : ∃ x, s.accumulator = some x := by
  cases hacc : s.accumulator with
  | some x => exact ⟨x, rfl⟩
  | none => cases m <;> simp [violation?, hacc] at h

/-- A missing operand is objected to only where there is no accumulator. -/
lemma accumulator_of_missing? {s : Replay} {m : Meaning} {e : CalculationError}
    (h : s.missing? m = some e) : s.accumulator = none := by
  cases hacc : s.accumulator with
  | none => rfl
  | some x => cases m <;> simp [missing?, hacc] at h

/-- The strict mode objects to missing operands, and both checked modes to operands that are not
acceptable; the two never meet in one state. -/
lemma objection?_eq_some_iff {mode : Mode} {s : Replay} {m : Meaning} {e : CalculationError} :
    s.objection? mode m = some e ↔
      (mode = .strict ∧ s.missing? m = some e) ∨ (mode ≠ .lenient ∧ s.violation? m = some e) := by
  cases mode with
  | lenient => simp [objection?]
  | tolerant => simp [objection?]
  | strict =>
    cases hmissing : s.missing? m with
    | none => simp [objection?, hmissing]
    | some e' =>
      have hviolation : s.violation? m = none := by
        cases hv : s.violation? m with
        | none => rfl
        | some e'' =>
          obtain ⟨x, hx⟩ := accumulator_of_violation? hv
          rw [accumulator_of_missing? hmissing] at hx
          cases hx
      simp [objection?, hmissing, hviolation]

/-! ### Runs -/

variable {σ : Type} {table : Table σ} {bindings : Bindings}

/-- A replay that starts in a coherent state ends in one. -/
lemma Coherent.run {s : Replay} (h : s.Coherent) (table : Table σ) (bindings : Bindings)
    (steps : List Step) (source : σ) :
    (run table bindings s steps source).1.Coherent := by
  induction steps generalizing s source with
  | nil => exact h
  | cons step rest ih =>
    rw [run_cons]
    exact ih (h.after _) _

/-- The state at the end of a replay from the start is coherent, in every mode that lets it end. -/
lemma coherent_of_runIn_eq_ok {mode : Mode} {t : Replay} {steps : List Step} {source source' : σ}
    (h : runIn table bindings mode start steps source = (.ok t, source')) : t.Coherent := by
  have hrun := coherent_start.run table bindings steps source
  rw [run_eq_of_runIn_eq_ok h] at hrun
  exact hrun

end Replay

end ReplayCalculator
