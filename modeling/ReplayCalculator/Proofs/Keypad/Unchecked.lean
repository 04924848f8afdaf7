import Mathlib.Data.List.Infix
import ReplayCalculator.Keypad.Action
import ReplayCalculator.Operation.Feed
import ReplayCalculator.Proofs.Replay.Strictness

/-!
# Keypads that look for errors, and keypads that do not

A checked keypad replays its log in the tolerant mode, an unchecked one in the lenient mode. What a
keypad shows comes back into its log: the store key binds the memory to the displayed number, and
the memory decides later evaluations. Two keypads that once differ in the display would therefore
drift apart. But as long as no refresh has found an error, both evaluations are the same and make
the same draws (`refresh_unchecked`), so that every key press takes the two keypads to states that
differ in nothing but whether they are checked (`act_unchecked`). The main statement
`perform_new_eq_of_error_eq_none` says this of all histories.
-/

namespace ReplayCalculator.Keypad

variable {σ : Type} {table : Table σ}

/-- The keypad that does not look for errors, all else being equal. -/
def unchecked (k : Keypad) : Keypad := { k with checked := false }

/-- What a key press answers: digit keys answer the display or refuse, other keys answer nothing. -/
def answer? (k : Keypad) : Action → Option (Except DigitError String)
  | .digit text => some ((k.digit? (CodePoint.ofString text)).map Keypad.display)
  | _ => none

/-! ### One key press -/

/-- A refresh that finds no error shows the same on the unchecked keypad, with the same draws. -/
lemma refresh_unchecked {k : Keypad} {source : σ}
    (h : (k.refresh table source).1.error = none) :
    k.unchecked.refresh table source =
      ((k.refresh table source).1.unchecked, (k.refresh table source).2) := by
  unfold refresh at h ⊢
  rcases hout : evaluateIn table k.bindings k.mode k.log.steps source with ⟨e | v, source'⟩
  · rw [hout] at h
    cases h
  · have hlenient : evaluateIn table k.unchecked.bindings k.unchecked.mode k.unchecked.log.steps
        source = (.ok v, source') :=
      evaluateIn_eq_ok_of_strictness_le (Nat.zero_le _) hout
    rw [hlenient]
    rfl

/-- Digit keys do not ask whether the keypad is checked. -/
lemma digit?_unchecked (k : Keypad) (text : List CodePoint) :
    k.unchecked.digit? text = (k.digit? text).map unchecked := by
  unfold digit?
  cases digitKey? text <;> rfl

/-- Committing the typed number does not ask whether the keypad is checked. -/
lemma commit_unchecked (k : Keypad) : k.unchecked.commit = k.commit.unchecked := by
  have hvalue : k.unchecked.displayValue? = k.displayValue? := rfl
  have htyping : k.unchecked.typing = k.typing := rfl
  unfold commit
  rw [hvalue, htyping]
  cases k.typing <;> cases k.displayValue? <;> rfl

/-- Erasing a typed character does not ask whether the keypad is checked. -/
lemma eraseChar_unchecked (k : Keypad) : k.unchecked.eraseChar = k.eraseChar.unchecked := by
  have hdisplay : k.unchecked.display = k.display := rfl
  unfold eraseChar
  rw [hdisplay]
  simp only
  split <;> rfl

/-- A key press after which there is no error does the same to the unchecked keypad. -/
lemma act_unchecked {k : Keypad} {source : σ} {a : Action}
    (h : (k.act table source a).1.error = none) :
    k.unchecked.act table source a =
      ((k.act table source a).1.unchecked, (k.act table source a).2) := by
  cases a with
  | digit text =>
    simp only [act, digit?_unchecked]
    cases k.digit? (CodePoint.ofString text) <;> rfl
  | operation symbol =>
    have hrecord : k.unchecked.commit.record (.operation symbol) =
        (k.commit.record (.operation symbol)).unchecked := by
      rw [commit_unchecked]
      rfl
    simp only [act, operation, hrecord] at h ⊢
    exact refresh_unchecked h
  | erase =>
    have htyping : k.unchecked.typing = k.typing := rfl
    simp only [act, erase, htyping] at h ⊢
    cases hk : k.typing with
    | true => simp only [if_true, eraseChar_unchecked]
    | false =>
      simp only [hk, Bool.false_eq_true, if_false] at h ⊢
      exact refresh_unchecked h
  | clean => rfl
  | storeMemory =>
    have hvalue : k.unchecked.displayValue? = k.displayValue? := rfl
    simp only [act, storeMemory, hvalue] at h ⊢
    cases hk : k.displayValue? with
    | none => rfl
    | some x =>
      rw [hk] at h
      exact refresh_unchecked h
  | recallMemory => exact refresh_unchecked h

/-- What a key press answers does not depend on whether the keypad is checked. -/
lemma answer?_unchecked (k : Keypad) (a : Action) : k.unchecked.answer? a = k.answer? a := by
  cases a with
  | digit text =>
    simp only [answer?, digit?_unchecked]
    cases k.digit? (CodePoint.ofString text) <;> rfl
  | _ => rfl

/-! ### Histories -/

/-- A history without errors takes the unchecked keypad to the same state, with the same draws. -/
lemma perform_unchecked {k : Keypad} {source : σ} {actions : List Action}
    (h : ∀ front, front <+: actions → (k.perform table source front).1.error = none) :
    k.unchecked.perform table source actions =
      ((k.perform table source actions).1.unchecked, (k.perform table source actions).2) := by
  induction actions generalizing k source with
  | nil => rfl
  | cons a rest ih =>
    have hfirst : (k.act table source a).1.error = none := h [a] (List.prefix_append [a] rest)
    simp only [perform, act_unchecked hfirst]
    apply ih
    intro front hfront
    exact h (a :: front) (List.cons_prefix_cons.mpr ⟨rfl, hfront⟩)

/-- A new checked keypad and a new unchecked one to which the same history happens go through the
same states as long as the checked one has met no error: at every point of the history they differ
in nothing but whether they are checked, the source has been left in the same state, and the next
key press answers the same. -/
theorem perform_new_eq_of_error_eq_none (table : Table σ) (source : σ) (actions : List Action)
    (hnone : ∀ front, front <+: actions →
      ((new true).perform table source front).1.error = none) :
    ∀ front, front <+: actions →
      let k := (new true).perform table source front
      let k' := (new false).perform table source front
      k' = ({ k.1 with checked := false }, k.2) ∧ k'.1.error = none ∧
        ∀ a, k'.1.answer? a = k.1.answer? a := by
  intro front hfront k k'
  have heq : k' = (k.1.unchecked, k.2) := by
    apply perform_unchecked (k := new true)
    intro front' hfront'
    exact hnone front' (hfront'.trans hfront)
  refine ⟨heq, ?_, ?_⟩
  · rw [heq]
    exact hnone front hfront
  · intro a
    rw [heq]
    exact answer?_unchecked k.1 a

/-- A random value is added to one and stored, and twice the memory is computed, although each
refresh draws other random values: both keypads show the same, and their sources are left in the
same state. -/
theorem perform_new_eq_of_random_memory :
    let table := Table.standard Supply.between
    let supply : Supply := { numbers := ⟨3, [15, 0]⟩ }
    let actions : List Action :=
      [.digit "1", .operation "+", .operation "Rand", .operation "=", .storeMemory, .digit "2",
        .operation "×", .digit "two", .recallMemory, .operation "=", .erase]
    let k := (new true).perform table supply actions
    let k' := (new false).perform table supply actions
    (∀ front, front <+: actions → ((new true).perform table supply front).1.error = none) ∧
      k.1.memory = some 62501 ∧ k.1.description = "2×M..." ∧
      k' = ({ k.1 with checked := false }, k.2) ∧
      k'.1.answer? (.digit "two") = k.1.answer? (.digit "two") := by
  intro table supply actions k k'
  have hnone : ∀ front, front <+: actions →
      ((new true).perform table supply front).1.error = none := by
    intro front hfront
    have hall : ∀ front ∈ actions.inits,
        ((new true).perform table supply front).1.error = none := by
      decide +kernel
    exact hall front ((List.mem_inits front actions).mpr hfront)
  obtain ⟨heq, -, hanswer⟩ := perform_new_eq_of_error_eq_none table supply actions hnone actions
    List.prefix_rfl
  exact ⟨hnone, by decide +kernel, by decide +kernel, heq, hanswer (.digit "two")⟩

end ReplayCalculator.Keypad
