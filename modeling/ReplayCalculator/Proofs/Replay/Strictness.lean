import Mathlib.Tactic.Lemma
import ReplayCalculator.Evaluation.Basic

/-!
# Modes by strictness

The modes of a replay differ in what they object to, and in nothing else. A stricter mode objects
wherever a more lenient one does (`objection?_eq_none_of_strictness_le`). A replay that a stricter
mode lets end is therefore, step by step, also the replay of the more lenient mode, and makes the
same draws (`runIn_eq_ok_of_strictness_le`); in particular it is the lenient replay, which always
ends (`run_eq_of_runIn_eq_ok`).
-/

namespace ReplayCalculator

/-- How many kinds of objections a mode knows: none, those to operands that are not acceptable, and
those to operands that are missing as well. -/
def Mode.strictness : Mode → Nat
  | lenient => 0
  | tolerant => 1
  | strict => 2

namespace Replay

/-- What a mode lets pass is let pass by every mode that is less strict. -/
lemma objection?_eq_none_of_strictness_le {mode mode' : Mode}
    (hle : mode.strictness ≤ mode'.strictness) {s : Replay} {m : Meaning}
    (h : s.objection? mode' m = none) : s.objection? mode m = none := by
  cases mode with
  | lenient => rfl
  | strict =>
    cases mode' with
    | strict => exact h
    | _ => simp [Mode.strictness] at hle
  | tolerant =>
    cases mode' with
    | lenient => simp [Mode.strictness] at hle
    | tolerant => exact h
    | strict =>
      simp only [objection?, Option.or_eq_none_iff] at h
      exact h.2

variable {σ : Type} {table : Table σ} {bindings : Bindings}

/-- A replay that a mode lets end is also the replay of every mode that is less strict. -/
lemma runIn_eq_ok_of_strictness_le {mode mode' : Mode} (hle : mode.strictness ≤ mode'.strictness)
    {s t : Replay} {steps : List Step} {source source' : σ}
    (h : runIn table bindings mode' s steps source = (.ok t, source')) :
    runIn table bindings mode s steps source = (.ok t, source') := by
  induction steps generalizing s source with
  | nil => exact h
  | cons step rest ih =>
    rw [runIn_cons] at h ⊢
    cases hobj : s.objection? mode' (step.meaning table bindings source).1 with
    | some e => simp [hobj] at h
    | none =>
      rw [hobj] at h
      rw [objection?_eq_none_of_strictness_le hle hobj]
      exact ih h

/-- A replay that its mode does not stop is the lenient replay. -/
lemma run_eq_of_runIn_eq_ok {mode : Mode} {s t : Replay} {steps : List Step} {source source' : σ}
    (h : runIn table bindings mode s steps source = (.ok t, source')) :
    run table bindings s steps source = (t, source') := by
  have hlenient : runIn table bindings .lenient s steps source = (.ok t, source') :=
    runIn_eq_ok_of_strictness_le (Nat.zero_le _) h
  rw [runIn_lenient] at hlenient
  simpa [Prod.ext_iff] using hlenient

end Replay

variable {σ : Type} {table : Table σ} {bindings : Bindings}

/-- An evaluation in some mode is also that of every mode that is less strict, with the same
draws. -/
lemma evaluateIn_eq_ok_of_strictness_le {mode mode' : Mode}
    (hle : mode.strictness ≤ mode'.strictness) {steps : List Step} {source source' : σ}
    {v : Evaluation} (h : evaluateIn table bindings mode' steps source = (.ok v, source')) :
    evaluateIn table bindings mode steps source = (.ok v, source') := by
  simp only [evaluateIn] at h ⊢
  rcases hrun : Replay.runIn table bindings mode' .start steps source with ⟨e | t, source''⟩
  · simp [hrun, Except.map] at h
  · rw [Replay.runIn_eq_ok_of_strictness_le hle hrun]
    rw [hrun] at h
    exact h

end ReplayCalculator
