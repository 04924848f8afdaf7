import ReplayCalculator.Operation.Feed
import ReplayCalculator.Proofs.Decimal.Canonical
import ReplayCalculator.Proofs.Evaluation.Overflow
import ReplayCalculator.Proofs.Keypad.Typing
import ReplayCalculator.Proofs.Keypad.View

/-!
# Numbers that are not finite on the display

A checked keypad tests operands, but two doors lead out of the finite numbers without a test: a
numeral that is too large for a number, and an operation that overflows, one of arithmetic, a
reciprocal, a square or a cube. Both end in an infinity on the display (`display_of_doors`).

Apart from these doors a keypad stays with finite numbers (`Sound`): those in its log, in its memory
and on its display. What is on the display was typed, or is an error or the text of a number, and
the text of a finite number is read as a finite number (`isHarmless_shown`). Every key press that
passes no door keeps this so (`Sound.act`). The main statement `perform_of_avoidsDoors` holds of all
histories that avoid the doors.
-/

namespace ReplayCalculator.Keypad

open Binary64 (overflowBound)
open Numeral (IsTypedText plainValue)

variable {σ : Type} {table : Table σ}

/-! ### Doors -/

/-- The key press leads to a numeral that is too large, or to a replay in which an operation without
a guard overflows. -/
def PassesDoor (table : Table σ) (k : Keypad) (source : σ) (a : Action) : Prop :=
  let next := (k.act table source a).1
  (next.typing = true ∧ overflowBound ≤ plainValue next.display.toList) ∨
    (k.refreshes a = true ∧ ∃ symbol ∈ Table.doors,
      Replay.overflowIn? table next.bindings .start next.log.steps source = some symbol)

/-- No key press of the history passes a door. -/
def AvoidsDoors (table : Table σ) (k : Keypad) (source : σ) : List Action → Prop
  | [] => True
  | a :: rest =>
    ¬ k.PassesDoor table source a ∧
      AvoidsDoors table (k.act table source a).1 (k.act table source a).2 rest

instance (table : Table σ) (k : Keypad) (source : σ) (a : Action) :
    Decidable (k.PassesDoor table source a) :=
  inferInstanceAs (Decidable (_ ∨ _))

instance decidableAvoidsDoors (table : Table σ) (k : Keypad) (source : σ) :
    (actions : List Action) → Decidable (k.AvoidsDoors table source actions)
  | [] => .isTrue trivial
  | a :: rest =>
    have := decidableAvoidsDoors table (k.act table source a).1 (k.act table source a).2 rest
    inferInstanceAs (Decidable (¬ k.PassesDoor table source a ∧ _))

/-! ### Harmless texts -/

/-- The texts of the numbers that are not finite. -/
def nonFiniteTexts : List String := ["∞", "-∞", "NaN"]

/-- The text is none of these, and if it is read as a number then as a finite one. -/
structure IsHarmless (text : String) : Prop where
  not_mem : text ∉ nonFiniteTexts
  isFinite : ∀ x, Numeral.read? text = some x → x.isFinite = true

/-- A text that is read as a finite number is harmless. -/
lemma isHarmless_of_read? {text : String} {x : Float} (hread : Numeral.read? text = some x)
    (hx : x.isFinite = true) : IsHarmless text := by
  refine ⟨fun hmem => ?_, fun y hy => ?_⟩
  · have hnone : ∀ text ∈ nonFiniteTexts, ((Numeral.read? text).any Float.isFinite) = false := by
      decide +kernel
    have hany := hnone text hmem
    rw [hread, Option.any_some, hx] at hany
    cases hany
  · rw [hread] at hy
    cases hy
    exact hx

/-- The text of a finite number is read as a finite number, and so it is harmless. -/
lemma isHarmless_shown {x : Float} (hx : x.isFinite = true) : IsHarmless (Number.shown x) := by
  have hdatum := Number.datum_of_isFinite hx
  obtain ⟨hfinite, -⟩ := Decimal.placesOf_nearestRank (Binary64.isFinite_iff.mp hx)
  have hread := Numeral.read?_signed_fixedDigits
    (Binary64.isNegative x && Decimal.placesOf 6 (Binary64.rank x) != 0)
    (Decimal.placesOf_lt (Binary64.isFinite_iff.mp hx))
  rw [← Number.shown_of_finite hdatum] at hread
  refine isHarmless_of_read? hread (Binary64.isFinite_iff.mpr ?_)
  rw [Binary64.rank_ofRank _ hfinite.le]
  exact hfinite

/-- The text of an error is harmless. -/
lemma isHarmless_of_isErrorText {text : String} (h : IsErrorText text) : IsHarmless text := by
  refine ⟨fun hmem => ?_, fun x hx => ?_⟩
  · have hnone : ∀ text ∈ nonFiniteTexts, text.toList.head? ≠ some 'E' := by decide
    exact hnone text hmem h.head?
  · rw [read?_eq_none_of_isErrorText h] at hx
    cases hx

/-- The text of a keypad that has nothing to show is harmless. -/
lemma isHarmless_placeholder : IsHarmless displayPlaceholder := by
  refine ⟨by decide, fun x hx => ?_⟩
  have hnone : Numeral.read? displayPlaceholder = none := by decide +kernel
  rw [hnone] at hx
  cases hx

/-- A typed numeral is harmless if it is not too large. -/
lemma isHarmless_of_isTypedText {text : String} (h : IsTypedText text.toList)
    (hsmall : plainValue text.toList < overflowBound) : IsHarmless text := by
  refine ⟨fun hmem => ?_, fun x hx => ?_⟩
  · have hnone : ∀ text ∈ nonFiniteTexts, text.toList.all Numeral.isPlain = false := by decide
    have hall := List.all_eq_true.mpr h.isPlain
    rw [hnone text hmem] at hall
    cases hall
  · rw [← String.ofList_toList (s := text)] at hx
    exact (h.isNearestNumber hx).isFinite hsmall

/-! ### Keypads that stay with finite numbers -/

/-- The keypad is checked; the numbers in its log and its memory are finite, and its display is
harmless. -/
structure Sound (k : Keypad) : Prop where
  checked : k.checked = true
  log : ∀ x, .number x ∈ k.log.steps → x.isFinite = true
  memory : ∀ x, k.memory = some x → x.isFinite = true
  display : IsHarmless k.display

/-- A checked keypad on which no key was pressed is sound. -/
lemma sound_new : (new true).Sound := by
  refine ⟨rfl, fun x hx => ?_, fun x hx => ?_, isHarmless_placeholder⟩
  · cases hx
  · cases hx

/-- The variables of a sound keypad have finite values. -/
lemma Sound.bindings {k : Keypad} (h : k.Sound) : k.bindings.IsFinite := by
  intro name
  rcases hmemory : k.memory with _ | x <;>
    simp only [Keypad.bindings, hmemory, Option.elim, Bindings.value, OrderedMap.get?_insert,
      OrderedMap.get?_empty]
  · rfl
  · split
    · exact h.memory x hmemory
    · rfl

/-- What a refresh shows: the reason of the error at which the replay of the log stops, or else the
result, which is finite, if there is one. -/
inductive ShowsFinite (table : Table σ) (source : σ) (k : Keypad) : Prop
  | error {e : CalculationError}
      (hout : (evaluateIn table k.bindings .tolerant k.log.steps source).1 = .error e)
      (hdisplay : k.display = "Error: " ++ e.reason)
  | result {v : Evaluation}
      (hout : (evaluateIn table k.bindings .tolerant k.log.steps source).1 = .ok v)
      (hdisplay : ∀ x, v.result = some x → x.isFinite = true ∧ k.display = Number.shown x)

variable {doors : List String}

/-- The result of a replay without an overflow is finite. -/
lemma Sound.isFinite_result {k : Keypad} (h : k.Sound) (hconfined : table.Confined doors)
    {source : σ} (hoverflow : Replay.overflowIn? table k.bindings .start k.log.steps source = none)
    {v : Evaluation} (hout : (evaluateIn table k.bindings .tolerant k.log.steps source).1 = .ok v)
    {x : Float} (hx : v.result = some x) : x.isFinite = true := by
  obtain ⟨s, source', hrun, rfl⟩ := exists_runIn_of_evaluateIn_eq_ok hout
  have hstart : Replay.start.IsFinite := ⟨fun x hx => (by cases hx), fun p hp => (by cases hp)⟩
  have hfinite := hstart.runIn hconfined (registered_start table) h.bindings h.log hoverflow hrun
  exact hfinite.accumulator x hx

/-- A sound keypad stays sound when its view is refreshed, and shows an error or a finite result, if
no operation overflows in the replay. -/
lemma Sound.refresh {k : Keypad} (h : k.Sound) (hconfined : table.Confined doors) {source : σ}
    (hoverflow : Replay.overflowIn? table k.bindings .start k.log.steps source = none) :
    (k.refresh table source).1.Sound ∧ ShowsFinite table source (k.refresh table source).1 := by
  have hmode : k.mode = .tolerant := if_pos h.checked
  rcases hout : evaluateIn table k.bindings .tolerant k.log.steps source with ⟨e | v, source'⟩
  · have hrefresh : (k.refresh table source).1 =
        k.present (some e) (evaluate table k.bindings k.log.steps source').1 := by
      simp only [Keypad.refresh, hmode, hout]
    have herror : IsErrorText (errorLabel ++ e.reason) := by
      rw [IsErrorText, String.toList_append]
      exact List.prefix_append _ _
    rw [hrefresh]
    exact ⟨⟨h.checked, h.log, h.memory, isHarmless_of_isErrorText herror⟩,
      .error (congrArg Prod.fst hout) rfl⟩
  · have hrefresh : (k.refresh table source).1 = k.present none v := by
      simp only [Keypad.refresh, hmode, hout]
    have hresult : ∀ x, v.result = some x →
        x.isFinite = true ∧ (k.present none v).display = Number.shown x := by
      intro x hx
      exact ⟨h.isFinite_result hconfined hoverflow (congrArg Prod.fst hout) hx,
        by simp only [present, hx]⟩
    have hharmless : IsHarmless (k.present none v).display := by
      rcases hv : v.result with _ | x
      · simpa only [present, hv] using h.display
      · rw [(hresult x hv).2]
        exact isHarmless_shown (hresult x hv).1
    rw [hrefresh]
    exact ⟨⟨h.checked, h.log, h.memory, hharmless⟩, .result (congrArg Prod.fst hout) hresult⟩

/-! ### Key presses -/

section KeyPress

variable {k : Keypad} (h : k.Sound)
include h

/-- A sound keypad is sound when it is about to refresh its view. -/
lemma Sound.turns {j : Keypad} (hj : k.Turns j) : j.Sound where
  checked := hj.checked.trans h.checked
  log := fun x hx => (hj.number x hx).elim (h.log x) (h.display.isFinite x)
  memory := fun x hx => (hj.memory x hx).elim (h.memory x) (h.display.isFinite x)
  display := hj.display ▸ h.display

/-- A sound keypad is sound with another display, if that is harmless. -/
lemma Sound.withDisplay {display : String} (hdisplay : IsHarmless display) (typing : Bool) :
    ({ k with display, typing } : Keypad).Sound :=
  ⟨h.checked, h.log, h.memory, hdisplay⟩

/-- A key press that refreshes the view leaves a sound keypad sound, if no operation overflows, and
an error or a finite result is displayed. -/
lemma Sound.act_of_refreshes (hconfined : table.Confined Table.doors) {source : σ} {a : Action}
    (hrefreshes : k.refreshes a = true) (hdoor : ¬ k.PassesDoor table source a) :
    (k.act table source a).1.Sound ∧ ShowsFinite table source (k.act table source a).1 := by
  obtain ⟨j, hj, hact⟩ : ∃ j, k.Turns j ∧ k.act table source a = j.refresh table source :=
    exists_act_eq_refresh hrefreshes source
  have hoverflow : Replay.overflowIn? table j.bindings .start j.log.steps source = none := by
    rcases hsymbol : Replay.overflowIn? table j.bindings .start j.log.steps source with _ | symbol
    · rfl
    · have hmem := Replay.mem_doors_of_overflowIn? hconfined (registered_start table) hsymbol
      refine absurd (Or.inr ⟨hrefreshes, symbol, hmem, ?_⟩) hdoor
      rw [hact]
      simpa only [Keypad.bindings, refresh_memory, refresh_log] using hsymbol
  rw [hact]
  exact (h.turns hj).refresh hconfined hoverflow

/-- A key press that does not refresh the view leaves a sound keypad sound, if the numeral that is
typed is not too large. -/
lemma Sound.act_of_not_refreshes (hentered : k.entered.WellTyped) {source : σ} {a : Action}
    (hrefreshes : k.refreshes a = false) (hdoor : ¬ k.PassesDoor table source a) :
    (k.act table source a).1.Sound := by
  have htyped : (k.act table source a).1.typing = true →
      IsHarmless (k.act table source a).1.display := by
    intro htyping
    have hnext : (k.act table source a).1.entered.WellTyped := by
      rw [entered_act]
      exact hentered.act a
    refine isHarmless_of_isTypedText (hnext.typed _ (by simp [entered, htyping])) ?_
    exact lt_of_not_ge fun hle => hdoor (Or.inl ⟨htyping, hle⟩)
  rcases a with text | symbol | _ | _ | _ | _
  · simp only [Keypad.act, digit?] at htyped ⊢
    split
    · exact h
    · rename_i c hc
      simp only [hc, Except.toOption, Option.getD_some] at htyped
      exact h.withDisplay (htyped rfl) true
  · cases hrefreshes
  · have htyping : k.typing = true := by simpa [refreshes] using hrefreshes
    simp only [Keypad.act, erase, if_pos htyping, eraseChar] at htyped ⊢
    split
    · exact h.withDisplay isHarmless_placeholder false
    · rename_i hrest
      simp only [if_neg hrest] at htyped
      exact h.withDisplay (htyped htyping) k.typing
  · simp only [Keypad.act, clean, h.checked]
    exact sound_new
  · have hnone : k.displayValue? = none := by simpa [refreshes] using hrefreshes
    simp only [Keypad.act, storeMemory, hnone]
    exact h
  · cases hrefreshes

/-- A key press that passes no door leaves a sound keypad sound. -/
lemma Sound.act (hconfined : table.Confined Table.doors) (hentered : k.entered.WellTyped)
    {source : σ} {a : Action} (hdoor : ¬ k.PassesDoor table source a) :
    (k.act table source a).1.Sound := by
  rcases hrefreshes : k.refreshes a with _ | _
  · exact h.act_of_not_refreshes hentered hrefreshes hdoor
  · exact (h.act_of_refreshes hconfined hrefreshes hdoor).1

end KeyPress

/-! ### Histories -/

/-- A sound keypad stays sound at the end of a history that avoids the doors. -/
lemma Sound.perform {k : Keypad} (h : k.Sound) (hconfined : table.Confined Table.doors)
    (hentered : k.entered.WellTyped) {source : σ} {actions : List Action}
    (havoids : k.AvoidsDoors table source actions) : (k.perform table source actions).1.Sound := by
  induction actions generalizing k source with
  | nil => exact h
  | cons a rest ih =>
    refine ih (h.act hconfined hentered havoids.1) ?_ havoids.2
    rw [entered_act]
    exact hentered.act a

/-- A history of two parts avoids the doors if both parts do. -/
lemma avoidsDoors_append {k : Keypad} {source : σ} {xs ys : List Action} :
    k.AvoidsDoors table source (xs ++ ys) ↔ k.AvoidsDoors table source xs ∧
      (k.perform table source xs).1.AvoidsDoors table (k.perform table source xs).2 ys := by
  induction xs generalizing k source with
  | nil => exact (and_iff_right trivial).symm
  | cons x xs ih => simp only [List.cons_append, AvoidsDoors, Keypad.perform, ih, and_assoc]

/-- A checked keypad of the calculator shows numbers that are not finite only after a door was
passed: a numeral from `2 ^ 1024 - 2 ^ 970` on was typed, or an operation among `+`, `−`, `×`, `÷`,
`x⁻¹`, `x²` and `x³` overflowed. In a history that avoids these doors no display is an infinity or
no number, and every refresh of the view shows either the reason of an error, if operands are not
accepted, or a finite result. -/
theorem perform_of_avoidsDoors {lib : Library} (hlib : lib.IsRegular)
    {between : Nat → Nat → σ → Nat × σ} (hdraws : Table.DrawsWithin between) (source : σ)
    (actions : List Action)
    (havoids : (new true).AvoidsDoors (Table.standardWith lib between) source actions) :
    let table := Table.standardWith lib between
    let k := ((new true).perform table source actions).1
    (k.display ≠ "∞" ∧ k.display ≠ "-∞" ∧ k.display ≠ "NaN") ∧
      ∀ front a before source', front ++ [a] <+: actions →
        (new true).perform table source front = (before, source') → before.refreshes a = true →
          ShowsFinite table source' (before.act table source' a).1 := by
  intro table k
  have hconfined : table.Confined Table.doors := Table.confined_standardWith hlib hdraws
  have hentered : (new true).entered.WellTyped := Entered.WellTyped.start
  refine ⟨?_, ?_⟩
  · have hsound := (sound_new.perform hconfined hentered havoids).display.not_mem
    simpa [nonFiniteTexts] using hsound
  · rintro front a before source' ⟨later, rfl⟩ hperform hrefreshes
    obtain ⟨hfront, hlater⟩ := avoidsDoors_append.mp (avoidsDoors_append.mp havoids).1
    have hsound := sound_new.perform hconfined hentered hfront
    rw [hperform] at hsound hlater
    exact (hsound.act_of_refreshes hconfined hrefreshes hlater.1).2

/-- The power of zero is divided by zero: no door is passed, and the division is displayed as an
error. -/
theorem perform_of_avoidsDoors_of_division :
    let table := Table.standardWith .atZero Supply.between
    let front : List Action := [.digit "0", .operation "eˣ", .operation "÷", .digit "0"]
    let before := (new true).perform table ({} : Supply) front
    let k := ((new true).perform table ({} : Supply) (front ++ [.operation "="])).1
    Library.atZero.IsRegular ∧ Table.DrawsWithin Supply.between ∧
      (new true).AvoidsDoors table ({} : Supply) (front ++ [.operation "="]) ∧
      before.1.description = "eˣ(0)÷..." ∧ k.display = "Error: division by zero" ∧
      ShowsFinite table before.2 (before.1.act table before.2 (.operation "=")).1 := by
  intro table front before k
  have havoids : (new true).AvoidsDoors table ({} : Supply) (front ++ [.operation "="]) := by
    decide +kernel
  have hdescription : before.1.description = "eˣ(0)÷..." := by decide +kernel
  have hdisplay : k.display = "Error: division by zero" := by decide +kernel
  obtain ⟨-, hshows⟩ := perform_of_avoidsDoors Library.isRegular_atZero
    Table.drawsWithin_between {} (front ++ [.operation "="]) havoids
  have hperform : (new true).perform table ({} : Supply) front = (before.1, before.2) :=
    Prod.mk.eta.symm
  have hlast := hshows front (.operation "=") before.1 before.2 (List.prefix_refl _) hperform rfl
  exact ⟨Library.isRegular_atZero, Table.drawsWithin_between, havoids, hdescription,
    hdisplay, hlast⟩

/-- Both doors lead to the display. Nine to the power of 729 is too large for a number, and the
cubes have no guard; and so is the number of 309 nines, which is recorded as it is typed. A checked
keypad shows an infinity and no error. -/
theorem display_of_doors :
    let table := Table.standard Supply.between
    let cubed := ((new true).perform table ({} : Supply)
      (.digit "9" :: List.replicate 6 (.operation "x³"))).1
    let typed := ((new true).perform table ({} : Supply)
      (List.replicate 309 (.digit "9") ++ [.operation "="])).1
    (cubed.checked = true ∧ cubed.error = none ∧ cubed.display = "∞") ∧
      (typed.checked = true ∧ typed.error = none ∧ typed.display = "∞") := by
  decide +kernel

end ReplayCalculator.Keypad
