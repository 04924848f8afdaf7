import Mathlib.Tactic.Lemma
import ReplayCalculator.Evaluation.Basic

/-!
# States that differ in what nobody reads

What a replay computes and objects to depends on accumulator and pending operation alone. States
that agree in these two have the *same values*.

The mark of a replay state is read in two ways only: whether it is a binary mark, and, while an
operation waits, whether it is that of a variable. Two states are *alike* if they agree on
everything else and on all that can be read of the mark. A number leaves the mark as it is, so that
two replays can stay alike without becoming equal for as long as numbers follow.

`Alike.after` is the step of the simulation and `Alike.runIn` the run: alike states have the same
outcome under all continuations, in every mode.
-/

namespace ReplayCalculator

namespace Replay

/-- The states agree in what can become a result or an error. -/
structure SameValues (s t : Replay) : Prop where
  accumulator : s.accumulator = t.accumulator
  pending : s.pending = t.pending

/-- A mode objects to the same in states with the same values. -/
lemma SameValues.objection?_eq {s t : Replay} (h : SameValues s t) (mode : Mode) (m : Meaning) :
    s.objection? mode m = t.objection? mode m := by
  have hmissing : s.missing? m = t.missing? m := by
    cases m <;> simp only [missing?, h.accumulator]
  have hviolation : s.violation? m = t.violation? m := by
    cases m <;> simp only [violation?, h.accumulator, h.pending]
  simp only [objection?, hmissing, hviolation]

/-- The states agree, except that their marks may differ as long as nothing waits and neither is a
binary mark. -/
structure Alike (s t : Replay) : Prop where
  accumulator : s.accumulator = t.accumulator
  pending : s.pending = t.pending
  description : s.description = t.description
  last : s.last = t.last ∨
    (s.pending = none ∧ s.last ≠ some (.operation .binary) ∧ t.last ≠ some (.operation .binary))

/-- A state is like itself. -/
lemma Alike.refl (s : Replay) : Alike s s := ⟨rfl, rfl, rfl, Or.inl rfl⟩

/-- Alike states in which an operation waits are equal. -/
lemma Alike.eq_of_pending {s t : Replay} (h : Alike s t) {p : Pending} (hp : s.pending = some p) :
    s = t := by
  obtain ⟨hacc, hpending, hdescription, hlast | ⟨hnone, -, -⟩⟩ := h
  · cases s
    cases t
    simp_all
  · rw [hp] at hnone
    cases hnone

/-- Whether the mark is a binary mark is the same in alike states. -/
lemma Alike.last_binary_iff {s t : Replay} (h : Alike s t) :
    s.last = some (.operation .binary) ↔ t.last = some (.operation .binary) := by
  rcases h.last with hlast | ⟨-, hs, ht⟩
  · rw [hlast]
  · exact ⟨fun hb => absurd hb hs, fun hb => absurd hb ht⟩

/-- Alike states evaluate to the same. -/
lemma Alike.evaluation_eq {s t : Replay} (h : Alike s t) : s.evaluation = t.evaluation := by
  simp only [evaluation, h.accumulator, h.pending, h.description]

/-- Alike states have the same values. -/
lemma Alike.sameValues {s t : Replay} (h : Alike s t) : SameValues s t :=
  ⟨h.accumulator, h.pending⟩

/-- A mode objects to the same in alike states. -/
lemma Alike.objection?_eq {s t : Replay} (h : Alike s t) (mode : Mode) (m : Meaning) :
    s.objection? mode m = t.objection? mode m := h.sameValues.objection?_eq mode m

/-! ### One step -/

/-- An operand with a mark of its own makes alike states equal. -/
lemma Alike.operand_eq {s t : Replay} (h : Alike s t) (x : Float) (text : String) (mark : Mark) :
    s.operand x text mark = t.operand x text mark := by
  simp only [operand, describe, h.pending, h.description]

/-- Alike states are alike after a number. -/
lemma Alike.after_number {s t : Replay} (h : Alike s t) (x : Float) :
    Alike (s.after (.number x)) (t.after (.number x)) where
  accumulator := rfl
  pending := h.pending
  description := by
    simp only [after, describe, h.last_binary_iff, h.pending, h.description]
  last := h.last

/-- A binary symbol makes alike states equal. -/
lemma Alike.applyBinary_eq {s t : Replay} (h : Alike s t) (symbol : String) (f : Binary)
    (x : Float) : s.applyBinary symbol f x = t.applyBinary symbol f x := by
  cases hp : s.pending with
  | some p => rw [h.eq_of_pending hp]
  | none =>
    have hp' : t.pending = none := by rw [← h.pending, hp]
    simp only [applyBinary, hp, hp', h.description]

/-- An equals symbol makes alike states equal. -/
lemma Alike.applyEquals_eq {s t : Replay} (h : Alike s t) (x : Float) :
    s.applyEquals x = t.applyEquals x := by
  simp only [applyEquals, h.last_binary_iff, h.pending, h.description]

/-- An operation of one operand makes alike states equal. -/
lemma Alike.applyUnary_eq {s t : Replay} (h : Alike s t) (symbol : String) (f : Unary) (x : Float) :
    s.applyUnary symbol f x = t.applyUnary symbol f x := by
  obtain ⟨accumulator, pending, last, description⟩ := s
  obtain ⟨accumulator', pending', last', description'⟩ := t
  obtain ⟨rfl, rfl, rfl, -⟩ := h
  rfl

/-- Alike states are alike after every meaning. -/
lemma Alike.after {s t : Replay} (h : Alike s t) (m : Meaning) : Alike (s.after m) (t.after m) := by
  have hacc := h.accumulator
  rcases m with x | ⟨name, x⟩ | x | ⟨symbol, f⟩ | ⟨symbol, f⟩ | symbol | x | _
  · exact h.after_number x
  · simpa only [Replay.after, h.operand_eq] using Alike.refl _
  · simpa only [Replay.after, h.operand_eq] using Alike.refl _
  · cases ht : t.accumulator with
    | none => simpa only [Replay.after, hacc, ht, Option.elim] using h
    | some x => simpa only [Replay.after, hacc, ht, Option.elim, h.applyUnary_eq] using Alike.refl _
  · cases ht : t.accumulator with
    | none => simpa only [Replay.after, hacc, ht, Option.elim] using h
    | some x =>
      simpa only [Replay.after, hacc, ht, Option.elim, h.applyBinary_eq] using Alike.refl _
  · cases ht : t.accumulator with
    | none => simpa only [Replay.after, hacc, ht, Option.elim] using h
    | some x =>
      simpa only [Replay.after, hacc, ht, Option.elim, h.applyEquals_eq] using Alike.refl _
  · simpa only [Replay.after, h.operand_eq] using Alike.refl _
  · exact h

/-! ### Runs -/

variable {σ : Type} (table : Table σ) (bindings : Bindings)

/-- Alike states have the same outcome under every continuation. -/
lemma Alike.runIn {s t : Replay} (h : Alike s t) (mode : Mode) (steps : List Step) (source : σ) :
    ((runIn table bindings mode s steps source).1.map evaluation,
        (runIn table bindings mode s steps source).2) =
      ((runIn table bindings mode t steps source).1.map evaluation,
        (runIn table bindings mode t steps source).2) := by
  induction steps generalizing s t source with
  | nil => simp only [runIn_nil, Except.map, h.evaluation_eq]
  | cons step rest ih =>
    rw [runIn_cons, runIn_cons, h.objection?_eq]
    cases t.objection? mode (step.meaning table bindings source).1 with
    | some e => rfl
    | none => exact ih (h.after _) _

end Replay

end ReplayCalculator
