import Mathlib.Tactic.Lemma
import ReplayCalculator.Keypad.Action
import ReplayCalculator.Proofs.Evaluation.Extension

/-!
# Key presses that fail

Two things can go wrong when a key is pressed: a text is no digit key, or the replay of the log
meets an error. A refresh catches domain errors and nothing else, and any other error would be
passed on. `attempt` is a key press with the errors that are passed on.

The errors that the replay of a keypad meets are domain errors, so that no refresh fails
(`attemptRefresh_eq`). All that is left to fail is a digit key, and then nothing is changed
(`attempt_of_isRefused`, `attempt_of_not_isRefused`).
-/

namespace ReplayCalculator

namespace Keypad

variable {σ : Type} (table : Table σ)

/-! ### Errors that a refresh catches -/

/-- Replays the log and shows the outcome, and catches domain errors alone. Any other error is
passed on, and then there is no error to show and the rest of the view is the old one. -/
def attemptRefresh (k : Keypad) (source : σ) : Except CalculationError Unit × Keypad × σ :=
  match evaluateIn table k.bindings k.mode k.log.steps source with
  | (.ok evaluation, source) => (.ok (), k.present none evaluation, source)
  | (.error e, source) =>
    if .domain ∈ e.kind.lineage then
      let outcome := evaluate table k.bindings k.log.steps source
      (.ok (), k.present (some e) outcome.1, outcome.2)
    else (.error e, { k with error := none }, source)

variable {table}

/-- The errors that the replay of a keypad meets are domain errors. -/
lemma domain_mem_lineage_of_evaluateIn_mode {k : Keypad} {source : σ} {e : CalculationError}
    (h : (evaluateIn table k.bindings k.mode k.log.steps source).1 = .error e) :
    .domain ∈ e.kind.lineage := by
  unfold mode at h
  split at h
  · exact domain_mem_lineage_of_evaluateIn h
  · rw [evaluateIn_lenient] at h
    cases h

/-- A refresh that catches domain errors alone never fails. -/
lemma attemptRefresh_eq (k : Keypad) (source : σ) :
    k.attemptRefresh table source = (.ok (), k.refresh table source) := by
  unfold attemptRefresh refresh
  rcases hout : evaluateIn table k.bindings k.mode k.log.steps source with ⟨e | v, source'⟩
  · have hdomain : ErrorKind.domain ∈ e.kind.lineage :=
      domain_mem_lineage_of_evaluateIn_mode (congrArg Prod.fst hout)
    simp only [hdomain, if_true]
  · rfl

/-! ### Errors that are passed on -/

/-- Only a single character of the eleven has a digit key. -/
lemma digitKey?_eq_none_iff {text : List CodePoint} :
    digitKey? text = none ↔ ¬ ∃ c ∈ digitKeys.toList, text = [.char c] := by
  constructor
  · rintro hnone ⟨c, hc, rfl⟩
    simp [digitKey?, hc] at hnone
  · intro hkey
    unfold digitKey?
    split
    · rename_i c
      exact if_neg fun hc => hkey ⟨c, List.contains_iff_mem.mp hc, rfl⟩
    · rfl

/-- One of the eleven texts that digit keys have: a single digit or the point. -/
def IsDigitKey (text : String) : Prop := ∃ c ∈ digitKeys.toList, text = String.singleton c

/-- Only texts of digit keys have a digit key. -/
lemma digitKey?_ofString_eq_none_iff {text : String} :
    digitKey? (CodePoint.ofString text) = none ↔ ¬ IsDigitKey text := by
  have hsingle : ∀ c, CodePoint.ofString text = [.char c] ↔ text = String.singleton c := by
    intro c
    rw [← String.toList_inj, String.toList_singleton, CodePoint.ofString, List.map_eq_singleton_iff]
    simp
  simp only [digitKey?_eq_none_iff, IsDigitKey, hsingle]

/-- The error of a key press. -/
inductive ActionError
  | digit (e : DigitError)
  | calculation (e : CalculationError)

variable (table)

/-- The keypad after a key press, and the error that is passed on, if there is one. -/
def attempt (k : Keypad) (source : σ) (a : Action) : Except ActionError Unit × Keypad × σ :=
  let view (k : Keypad) : Except ActionError Unit × Keypad × σ :=
    (k.attemptRefresh table source).map (·.mapError ActionError.calculation) id
  match a with
  | .digit text =>
    match k.digit? (CodePoint.ofString text) with
    | .ok k => (.ok (), k, source)
    | .error e => (.error (.digit e), k, source)
  | .operation symbol => view (k.commit.record (.operation symbol))
  | .erase =>
    if k.typing then (.ok (), k.eraseChar, source) else view { k with log := k.log.removeLast.2 }
  | .clean => (.ok (), k.clean, source)
  | .storeMemory =>
    match k.displayValue? with
    | none => (.ok (), k, source)
    | some x => view { k with memory := some x, typing := false }
  | .recallMemory => view { k.record (.variable memoryVariable) with typing := false }

variable {table}

/-- Whether a key press is a digit key with a text that is none. -/
def Action.IsRefused (a : Action) : Prop := ∃ text, a = .digit text ∧ ¬ IsDigitKey text

/-- A text that is no digit key is refused, and nothing is changed. -/
lemma attempt_of_isRefused {a : Action} (h : a.IsRefused) (k : Keypad) (source : σ) :
    ∃ e, k.attempt table source a = (.error (.digit e), k, source) := by
  obtain ⟨text, rfl, htext⟩ := h
  have hdigit : k.digit? (CodePoint.ofString text) = .error ⟨CodePoint.ofString text⟩ :=
    digit?_eq_error_iff.mpr ⟨digitKey?_ofString_eq_none_iff.mpr htext, rfl⟩
  refine ⟨⟨CodePoint.ofString text⟩, ?_⟩
  simp only [attempt, hdigit]

/-- All other key presses have no error. -/
lemma attempt_of_not_isRefused {a : Action} (h : ¬ a.IsRefused) (k : Keypad) (source : σ) :
    k.attempt table source a = (.ok (), k.act table source a) := by
  cases a with
  | digit text =>
    simp only [attempt, act]
    cases hdigit : k.digit? (CodePoint.ofString text) with
    | ok k' => rfl
    | error e =>
      have hkey := digitKey?_ofString_eq_none_iff.mp (digit?_eq_error_iff.mp hdigit).1
      exact absurd ⟨text, rfl, hkey⟩ h
  | operation symbol =>
    simp only [attempt, attemptRefresh_eq, act, operation]
    rfl
  | erase =>
    simp only [attempt, attemptRefresh_eq, act, erase]
    split
    · rfl
    · rfl
  | clean => rfl
  | storeMemory =>
    simp only [attempt, attemptRefresh_eq, act, storeMemory]
    cases k.displayValue? with
    | none => rfl
    | some x => rfl
  | recallMemory =>
    simp only [attempt, attemptRefresh_eq, act, recallMemory]
    rfl

end Keypad

end ReplayCalculator
