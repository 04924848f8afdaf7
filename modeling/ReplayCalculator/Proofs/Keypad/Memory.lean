import Mathlib.Tactic.Lemma
import ReplayCalculator.Operation.Feed
import ReplayCalculator.Proofs.Decimal.Shown
import ReplayCalculator.Proofs.Keypad.View

/-!
# Results that are stored and recalled

The store key binds the memory to what is read from the display, and not to the result that was
shown there. The two can differ, but they are shown as the same text. So this text is on the display
again as soon as the memory is recalled, since the variable of the memory is then the last operand
(`result_append_variable`). There is one exception: the other steps of the log are computed with the
new memory too, and a checked keypad on which one of them fails shows this error and no result
(`display_recallMemory_of_division`).
-/

namespace ReplayCalculator

/-- A variable at the end of the steps is the result, unless the steps fail. -/
lemma result_append_variable {σ : Type} {table : Table σ} {bindings : Bindings} {mode : Mode}
    {steps : List Step} {name : String} {source : σ} {v : Evaluation}
    (h : (evaluateIn table bindings mode (steps ++ [.variable name]) source).1 = .ok v) :
    v.result = some (bindings.value name) := by
  simp only [evaluateIn, Replay.runIn_append] at h
  rcases hrun : Replay.runIn table bindings mode .start steps source with ⟨e | s, source'⟩
  · rw [hrun] at h
    cases h
  · rw [hrun] at h
    simp only [Replay.runIn_cons, Step.meaning, Replay.runIn_nil] at h
    cases hobjection : s.objection? mode (.variable name (bindings.value name)) with
    | some e =>
      rw [hobjection] at h
      cases h
    | none =>
      rw [hobjection] at h
      cases h
      rfl

namespace Keypad

open Binary64 (datum)

variable {σ : Type} {table : Table σ} {k : Keypad}

/-- The memory is the value of its variable. -/
lemma value_bindings {w : Float} (h : k.memory = some w) :
    k.bindings.value memoryVariable = w := by
  simp only [bindings, h, Option.elim_some, Bindings.value, OrderedMap.get?_insert, if_true]
  rfl

/-- What is displayed when the memory is recalled: the memory, or the error that the replay of a
checked keypad meets. -/
lemma display_recallMemory_of_memory (table : Table σ) {w : Float} (h : k.memory = some w)
    (source : σ) :
    let recalled := (k.recallMemory table source).1
    (recalled.error = none → recalled.display = Number.shown w) ∧
      ∀ e, recalled.error = some e →
        k.checked = true ∧ recalled.display = errorLabel ++ e.reason := by
  intro recalled
  obtain ⟨k₁, hk₁⟩ : ∃ k₁ : Keypad,
      k₁ = { k.record (.variable memoryVariable) with typing := false } := ⟨_, rfl⟩
  have hrecalled : recalled = (k₁.refresh table source).1 := by rw [hk₁]; rfl
  have hlog : k₁.log.steps = k.log.steps ++ [.variable memoryVariable] := by rw [hk₁]; rfl
  have hvalue : k₁.bindings.value memoryVariable = w := value_bindings (by rw [hk₁]; exact h)
  rw [hrecalled]
  unfold refresh
  rcases hout : evaluateIn table k₁.bindings k₁.mode k₁.log.steps source with ⟨e | v, source'⟩
  · have herror := (evaluateIn_mode_eq_error_iff k₁ source e).mp (congrArg Prod.fst hout)
    have hchecked : k.checked = true := by
      rw [hk₁] at herror
      exact herror.1
    refine ⟨fun hnone => ?_, fun e' hsome => ⟨hchecked, ?_⟩⟩
    · cases hnone
    · cases hsome
      rfl
  · have hresult : v.result = some w := by
      rw [hlog] at hout
      rw [← hvalue]
      exact result_append_variable (congrArg Prod.fst hout)
    refine ⟨fun _ => ?_, fun e' hsome => ?_⟩
    · simp only [present, hresult]
    · cases hsome

/-! ### Storing -/

/-- The store key binds the memory to the displayed number. -/
lemma memory_storeMemory {w : Float} (h : k.displayValue? = some w) (source : σ) :
    (k.storeMemory table source).1.memory = some w := by
  simp only [storeMemory, h, refresh_memory]

/-- The store key does nothing if no number is displayed. -/
lemma storeMemory_of_displayValue?_eq_none (h : k.displayValue? = none) (source : σ) :
    k.storeMemory table source = (k, source) := by
  simp only [storeMemory, h]

/-- Reading a displayed result back and showing it changes nothing, for every number that is not
infinite, and for NaN. The store key binds the memory to the number that is read, if the display
holds such a result, and whenever a keypad recalls a memory that holds this number, it displays the
same text again, unless the replay of a checked keypad fails: then it displays the error. An
infinite result is read as no number, and the store key does nothing. -/
theorem display_recallMemory (table : Table σ) (v : Float) :
    ((∀ negative, datum v ≠ .infinite negative) →
      ∃ w, Numeral.read? (Number.shown v) = some w ∧ Number.shown w = Number.shown v ∧
        ∀ (k : Keypad) (source : σ), k.display = Number.shown v →
          (k.storeMemory table source).1.memory = some w ∧
            ∀ (k' : Keypad) (source' : σ), k'.memory = some w →
              let recalled := (k'.recallMemory table source').1
              (recalled.error = none → recalled.display = k.display) ∧
                ∀ e, recalled.error = some e →
                  k'.checked = true ∧ recalled.display = errorLabel ++ e.reason) ∧
    ∀ negative, datum v = .infinite negative →
      Numeral.read? (Number.shown v) = none ∧
        ∀ (k : Keypad) (source : σ), k.display = Number.shown v →
          k.storeMemory table source = (k, source) := by
  refine ⟨fun hv => ?_, fun negative hv => ?_⟩
  · obtain ⟨w, hread, hsame⟩ := Number.exists_read?_shown hv
    refine ⟨w, hread, hsame, fun k source hdisplay => ⟨?_, fun k' source' hmemory => ?_⟩⟩
    · apply memory_storeMemory
      rw [displayValue?, hdisplay]
      exact hread
    · have hrecalled := display_recallMemory_of_memory table hmemory source'
      rw [hsame, ← hdisplay] at hrecalled
      exact hrecalled
  · have hnone := Number.read?_shown_of_infinite hv
    refine ⟨hnone, fun k source hdisplay => ?_⟩
    apply storeMemory_of_displayValue?_eq_none
    rw [displayValue?, hdisplay]
    exact hnone

/-- A third is displayed with six decimals. These are stored, and displayed again when they are
recalled as the second operand of a sum. -/
theorem display_recallMemory_of_third :
    let table := Table.standard Supply.between
    let k := ((new true).perform table ({} : Supply)
      [.digit "1", .operation "÷", .digit "3", .operation "="]).1
    let k' := ((k.storeMemory table {}).1.perform table {} [.operation "+"]).1
    k.display = "0.333333" ∧ (k.storeMemory table {}).1.memory ≠ some (1 / 3) ∧
      (k'.recallMemory table {}).1.display = "0.333333" := by
  intro table k k'
  have hdisplay : k.display = "0.333333" := by decide +kernel
  have hshown : k.display = Number.shown (1 / 3) := by decide +kernel
  have hthird : (k.storeMemory table {}).1.memory ≠ some (1 / 3) := by decide +kernel
  have hmemory : k'.memory = (k.storeMemory table {}).1.memory := by decide +kernel
  have hfinite : ∀ negative, datum (1 / 3) ≠ .infinite negative := by decide +kernel
  have herror : (k'.recallMemory table {}).1.error = none := by decide +kernel
  obtain ⟨hback, -⟩ := display_recallMemory table (1 / 3)
  obtain ⟨w, -, -, hstored⟩ := hback hfinite
  obtain ⟨hw, hrecalled⟩ := hstored k {} hshown
  obtain ⟨hsame, -⟩ := hrecalled k' {} (hmemory.trans hw)
  exact ⟨hdisplay, hthird, (hsame herror).trans hdisplay⟩

/-- One is divided by one minus the memory, which is not bound yet, and the result is stored and
recalled. Now the division fails, so that the error is displayed and not the result. -/
theorem display_recallMemory_of_division :
    let table := Table.standard Supply.between
    let k := ((new true).perform table ({} : Supply)
      [.digit "1", .operation "−", .recallMemory, .operation "=", .operation "x⁻¹"]).1
    let recalled := (k.perform table {} [.storeMemory, .recallMemory]).1
    k.display = Number.shown 1 ∧ k.display = "1" ∧ (k.storeMemory table {}).1.memory = some 1 ∧
      recalled.memory = some 1 ∧ recalled.display = "Error: division by zero" ∧
      recalled.display ≠ k.display := by
  decide +kernel

end Keypad

end ReplayCalculator
