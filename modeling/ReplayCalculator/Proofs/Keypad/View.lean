import Mathlib.Data.List.Infix
import ReplayCalculator.Operation.Feed
import ReplayCalculator.Proofs.Evaluation.Extension
import ReplayCalculator.Proofs.Keypad.Display
import ReplayCalculator.Proofs.Replay.Draws

/-!
# The view of a keypad

Description, pending flag, error and display of a keypad are not computed from its log when they are
looked at: they are what the last refresh has left, and typing changes the display in between. This
file shows that they never contradict the log. As long as no key has refreshed the view, there is
nothing to see (`Blank`). After that the description, the flag and the error are those of
evaluations of the present log under the present memory (`Viewed`), and a display that is neither
being typed nor empty shows the error or the result (`Shows`).

A refresh that finds neither an error nor a result leaves the display as it was. That no old error
stays there needs an argument (`consistent_refresh` asks for it): an error persists under every
extension of the log, a number can be stored only if the display holds one, and where undoing a step
takes the error away, the step was the one that failed, so that there is a result.

The main statement `perform_view` holds of all histories of key presses, also of refused ones, in
which the log never holds a custom symbol.
-/

namespace ReplayCalculator.Keypad

variable {σ : Type} (table : Table σ)

/-! ### Histories -/

/-- Whether a key press refreshes the view. -/
def refreshes (k : Keypad) : Action → Bool
  | .operation _ => true
  | .recallMemory => true
  | .erase => !k.typing
  | .storeMemory => k.displayValue?.isSome
  | .digit _ => false
  | .clean => false

/-- Whether the view has been refreshed since the last clean key, after one more key press. -/
def refreshedAfter (k : Keypad) (before : Bool) (a : Action) : Bool :=
  if a = .clean then false else before || k.refreshes a

/-- Whether the view has been refreshed since the last clean key, at the end of a history. -/
def refreshedIn (k : Keypad) (source : σ) (before : Bool) : List Action → Bool
  | [] => before
  | a :: rest =>
    refreshedIn (k.act table source a).1 (k.act table source a).2 (k.refreshedAfter before a) rest

/-! ### Consistent views -/

/-- The keypad has nothing to show: no steps, no memory, and no view. -/
structure Blank (k : Keypad) : Prop where
  log : k.log = .empty
  memory : k.memory = none
  description : k.description = descriptionPlaceholder
  isPending : k.isPending = false
  error : k.error = none

/-- Description and pending flag are those of the lenient evaluation of the log, and the error is
that of its tolerant evaluation, if the keypad is checked. -/
structure Viewed (source : σ) (k : Keypad) : Prop where
  description : k.description =
    (evaluate table k.bindings k.log.steps source).1.description ++
      if (evaluate table k.bindings k.log.steps source).1.isPending then "..." else "="
  isPending : k.isPending = (evaluate table k.bindings k.log.steps source).1.isPending
  error : ∀ e, k.error = some e ↔ k.checked = true ∧
    (evaluateIn table k.bindings .tolerant k.log.steps source).1 = .error e

/-- The display shows the reason of the error, or else the result, if there is one. -/
structure Shows (source : σ) (k : Keypad) : Prop where
  reason : ∀ e, k.error = some e → k.display = "Error: " ++ e.reason
  result : k.error = none → ∀ x,
    (evaluate table k.bindings k.log.steps source).1.result = some x → k.display = Number.shown x

/-- What holds of every keypad at the end of a history: see `perform_view`. -/
structure Consistent (refreshed : Bool) (k : Keypad) : Prop where
  blank : refreshed = false → k.Blank
  viewed : refreshed = true → ∀ source, k.Viewed table source
  typed : k.typing = true → IsTyped k.display
  shown : k.typing = false → k.display ≠ displayPlaceholder → ∀ source, k.Shows table source
  error_of_text : IsErrorText k.display → k.error ≠ none

/-! ### Refreshing -/

variable {table}

/-- The mode of a keypad objects exactly if the keypad is checked and the tolerant mode objects. -/
lemma evaluateIn_mode_eq_error_iff (k : Keypad) (source : σ) (e : CalculationError) :
    (evaluateIn table k.bindings k.mode k.log.steps source).1 = .error e ↔
      k.checked = true ∧
        (evaluateIn table k.bindings .tolerant k.log.steps source).1 = .error e := by
  cases hchecked : k.checked with
  | true => simp [mode, hchecked]
  | false => simp [mode, hchecked, evaluateIn_lenient]

/-- Without custom symbols, a refresh shows the lenient evaluation, and the error of the tolerant
one if the keypad is checked; the source stays as it is. -/
lemma exists_refresh_eq {k : Keypad} (hfree : CustomFree table k.log.steps) (source : σ) :
    ∃ error, k.refresh table source =
        (k.present error (evaluate table k.bindings k.log.steps source).1, source) ∧
      ∀ e, error = some e ↔ k.checked = true ∧
        (evaluateIn table k.bindings .tolerant k.log.steps source).1 = .error e := by
  have hsource := congrArg Prod.snd
    (evaluateIn_of_customFree k.bindings k.mode hfree source source)
  have hlenient := congrArg Prod.snd (evaluate_of_customFree k.bindings hfree source source)
  simp only [← evaluateIn_mode_eq_error_iff]
  unfold refresh
  rcases hout : evaluateIn table k.bindings k.mode k.log.steps source with ⟨e | v, source'⟩
  · rw [hout] at hsource
    obtain rfl : source' = source := hsource
    refine ⟨some e, ?_, fun e' => by simp⟩
    exact Prod.ext rfl hlenient
  · rw [hout] at hsource
    obtain rfl : source' = source := hsource
    refine ⟨none, ?_, fun e' => by simp⟩
    rw [evaluate_eq_of_evaluateIn_eq_ok (v := v) (by rw [hout])]

/-- The error after a refresh is that of the tolerant evaluation, if the keypad is checked. -/
lemma refresh_error_eq_some_iff {k : Keypad} (hfree : CustomFree table k.log.steps) (source : σ)
    (e : CalculationError) :
    (k.refresh table source).1.error = some e ↔ k.checked = true ∧
      (evaluateIn table k.bindings .tolerant k.log.steps source).1 = .error e := by
  obtain ⟨error, hrefresh, herror⟩ := exists_refresh_eq hfree source
  rw [hrefresh]
  exact herror e

/-- After a refresh the view is that of the log, whatever the source. -/
lemma viewed_refresh {k : Keypad} (hfree : CustomFree table k.log.steps) (source source' : σ) :
    (k.refresh table source).1.Viewed table source' := by
  obtain ⟨error, hrefresh, herror⟩ := exists_refresh_eq hfree source
  have hlenient := congrArg Prod.fst (evaluate_of_customFree k.bindings hfree source source')
  have htolerant := congrArg Prod.fst
    (evaluateIn_of_customFree k.bindings .tolerant hfree source source')
  rw [hrefresh]
  refine ⟨?_, ?_, ?_⟩
  · exact congrArg (fun v : Evaluation =>
      v.description ++ if v.isPending then "..." else "=") hlenient
  · exact congrArg Evaluation.isPending hlenient
  · intro e
    exact (herror e).trans (by rw [htolerant]; rfl)

/-- After a refresh the display shows the error or the result. -/
lemma shows_refresh {k : Keypad} (hfree : CustomFree table k.log.steps) (source source' : σ) :
    (k.refresh table source).1.Shows table source' := by
  obtain ⟨error, hrefresh, -⟩ := exists_refresh_eq hfree source
  have hlenient := congrArg Prod.fst (evaluate_of_customFree k.bindings hfree source source')
  rw [hrefresh]
  refine ⟨?_, ?_⟩
  · rintro e rfl
    rfl
  · rintro rfl x hx
    have hresult : (evaluate table k.bindings k.log.steps source).1.result = some x := by
      rw [hlenient]
      exact hx
    simp only [present, hresult]

/-- A refresh that finds neither an error nor a result leaves the display as it was. -/
lemma display_refresh_of_none {k : Keypad} (hfree : CustomFree table k.log.steps) (source : σ)
    (herror : (k.refresh table source).1.error = none)
    (hresult : (evaluate table k.bindings k.log.steps source).1.result = none) :
    (k.refresh table source).1.display = k.display := by
  obtain ⟨error, hrefresh, -⟩ := exists_refresh_eq hfree source
  rw [hrefresh] at herror ⊢
  obtain rfl : error = none := herror
  simp only [present, hresult]

/-- A refresh of a keypad that is not being typed on gives a consistent keypad, provided that it
finds an error or a result where the display holds an error text. -/
lemma consistent_refresh {k : Keypad} (hfree : CustomFree table k.log.steps) (source : σ)
    (htyping : k.typing = false)
    (hstale : IsErrorText k.display → (k.refresh table source).1.error = none →
      ∃ x, (evaluate table k.bindings k.log.steps source).1.result = some x) :
    Consistent table true (k.refresh table source).1 where
  blank := by intro h; cases h
  viewed := fun _ => viewed_refresh hfree source
  typed := by
    intro h
    rw [refresh_typing, htyping] at h
    cases h
  shown := fun _ _ => shows_refresh hfree source
  error_of_text := by
    intro htext herror
    cases hresult : (evaluate table k.bindings k.log.steps source).1.result with
    | none =>
      rw [display_refresh_of_none hfree source herror hresult] at htext
      obtain ⟨x, hx⟩ := hstale htext herror
      rw [hresult] at hx
      cases hx
    | some x =>
      have hevaluate : (evaluate table (k.refresh table source).1.bindings
          (k.refresh table source).1.log.steps source).1.result = some x := by
        rw [refresh_log, bindings, refresh_memory]
        exact hresult
      rw [(shows_refresh hfree source source).result herror x hevaluate] at htext
      exact not_isErrorText_shown x htext

/-! ### Key presses that do not refresh -/

/-- Changing display and typing flag keeps a keypad consistent if the display is then being typed or
empty. -/
lemma Consistent.withDisplay {refreshed : Bool} {k : Keypad} (h : Consistent table refreshed k)
    {display : String} {typing : Bool} (htyped : typing = true → IsTyped display)
    (hempty : typing = false → display = displayPlaceholder) :
    Consistent table refreshed { k with display, typing } where
  blank := fun hr =>
    ⟨(h.blank hr).log, (h.blank hr).memory, (h.blank hr).description, (h.blank hr).isPending,
      (h.blank hr).error⟩
  viewed := fun hr source =>
    ⟨(h.viewed hr source).description, (h.viewed hr source).isPending, (h.viewed hr source).error⟩
  typed := htyped
  shown := fun hno hne => absurd (hempty hno) hne
  error_of_text := by
    intro htext
    cases typing with
    | true => exact absurd htext (not_isErrorText_of_typed (htyped rfl))
    | false =>
      rw [show ({ k with display, typing := false } : Keypad).display = displayPlaceholder from
        hempty rfl] at htext
      exact absurd htext not_isErrorText_placeholder

/-- A keypad on which no key was pressed is consistent. -/
lemma consistent_new (table : Table σ) (checked : Bool) :
    Consistent table false (new checked) where
  blank := fun _ => ⟨rfl, rfl, rfl, rfl, rfl⟩
  viewed := by intro h; cases h
  typed := by intro h; cases h
  shown := fun _ hne => absurd rfl hne
  error_of_text := fun htext => absurd htext not_isErrorText_placeholder

/-- A keypad stays consistent when a digit key is pressed, or a text that is none. -/
lemma Consistent.digit {refreshed : Bool} {k : Keypad} (h : Consistent table refreshed k)
    (text : List CodePoint) : Consistent table refreshed ((k.digit? text).toOption.getD k) := by
  unfold digit?
  split
  · exact h
  · rename_i c hc
    have htyped := isTyped_typeChar (mem_digitKeys_of_digitKey? hc) h.typed
    exact h.withDisplay (fun _ => htyped) fun hno => by cases hno

/-- A keypad stays consistent when a typed character is taken away. -/
lemma Consistent.eraseChar {refreshed : Bool} {k : Keypad} (h : Consistent table refreshed k)
    (htyping : k.typing = true) : Consistent table refreshed k.eraseChar := by
  have htyped := h.typed htyping
  unfold Keypad.eraseChar
  simp only
  split
  · exact h.withDisplay (fun hyes => by cases hyes) fun _ => rfl
  · refine h.withDisplay (fun _ => ?_) fun hno => absurd htyping (by rw [hno]; decide)
    intro c hc
    rw [String.toList_ofList] at hc
    exact htyped c (List.mem_of_mem_dropLast hc)

/-! ### Key presses that refresh -/

/-- The error of a consistent keypad is that of the tolerant evaluation of its log. -/
lemma Consistent.evaluateIn_of_error {refreshed : Bool} {k : Keypad}
    (h : Consistent table refreshed k) {e : CalculationError} (he : k.error = some e) (source : σ) :
    k.checked = true ∧
      (evaluateIn table k.bindings .tolerant k.log.steps source).1 = .error e := by
  cases refreshed with
  | false =>
    rw [(h.blank rfl).error] at he
    cases he
  | true => exact ((h.viewed rfl source).error e).mp he

/-- Refreshing after the log was extended keeps a keypad consistent, since an error persists. -/
lemma Consistent.refresh_of_extension {refreshed : Bool} {k : Keypad}
    (h : Consistent table refreshed k) {log : Log} (later : List Step)
    (hlog : log.steps = k.log.steps ++ later) (hfree : CustomFree table log.steps) (source : σ) :
    Consistent table true ({ k with log := log, typing := false }.refresh table source).1 := by
  refine consistent_refresh hfree source rfl ?_
  intro htext hnone
  obtain ⟨e, he⟩ := Option.ne_none_iff_exists'.mp (h.error_of_text htext)
  obtain ⟨hchecked, herror⟩ := h.evaluateIn_of_error he source
  have hextended := evaluateIn_append_of_error herror later
  rw [← hlog] at hextended
  have hsome := (refresh_error_eq_some_iff (k := { k with log := log, typing := false })
    hfree source e).mpr ⟨hchecked, hextended⟩
  rw [hsome] at hnone
  cases hnone

/-- Refreshing after the last step was undone keeps a keypad consistent: where that takes an error
away there is a result. -/
lemma Consistent.refresh_of_undo {refreshed : Bool} {k : Keypad}
    (h : Consistent table refreshed k) (htyping : k.typing = false)
    (hfree : CustomFree table k.log.removeLast.2.steps) (source : σ) :
    Consistent table true ({ k with log := k.log.removeLast.2 }.refresh table source).1 := by
  refine consistent_refresh hfree source htyping ?_
  intro htext hnone
  obtain ⟨e, he⟩ := Option.ne_none_iff_exists'.mp (h.error_of_text htext)
  obtain ⟨hchecked, herror⟩ := h.evaluateIn_of_error he source
  have hsome := refresh_error_eq_some_iff (k := { k with log := k.log.removeLast.2 }) hfree source
  rcases hundone : (evaluateIn table k.bindings .tolerant k.log.removeLast.2.steps source).1
    with e' | v
  · rw [(hsome e').mpr ⟨hchecked, hundone⟩] at hnone
    cases hnone
  · have hresult : ∃ x, v.result = some x := by
      rcases List.eq_nil_or_concat' k.log.steps with hnil | ⟨front, step, hlast⟩
      · have hempty : k.log.removeLast.2.steps = [] := by simp [Log.removeLast, hnil]
        rw [hempty, ← hnil, herror] at hundone
        cases hundone
      · have hfront : k.log.removeLast.2.steps = front := by simp [Log.removeLast, hlast]
        rw [hfront] at hundone
        rw [hlast] at herror
        exact exists_result_of_last_error hundone herror
    rw [← evaluate_eq_of_evaluateIn_eq_ok hundone] at hresult
    exact hresult

/-- Refreshing after a displayed number was stored keeps a keypad consistent. -/
lemma Consistent.storeMemory {refreshed : Bool} {k : Keypad} (h : Consistent table refreshed k)
    (source : σ) (hfree : CustomFree table k.log.steps) :
    Consistent table (refreshed || k.displayValue?.isSome) (k.storeMemory table source).1 := by
  unfold Keypad.storeMemory
  cases hvalue : k.displayValue? with
  | none => simpa using h
  | some x =>
    simp only [Option.isSome_some, Bool.or_true]
    refine consistent_refresh (k := { k with memory := some x, typing := false }) hfree
      source rfl ?_
    intro htext
    rw [displayValue?_of_isErrorText (k := k) htext] at hvalue
    cases hvalue

/-- What a commit does to a keypad: it appends to the log and ends the typing. -/
lemma exists_commit_eq (k : Keypad) :
    ∃ log later, k.commit = { k with log := log, typing := false } ∧
      log.steps = k.log.steps ++ later := by
  unfold commit
  cases htyping : k.typing with
  | true =>
    cases hvalue : k.displayValue? with
    | none => exact ⟨k.log, [], rfl, by simp⟩
    | some x => exact ⟨k.log.append (.number x), [.number x], rfl, rfl⟩
  | false =>
    refine ⟨k.log, [], ?_, by simp⟩
    cases k
    simp_all

/-- What a key press makes of a keypad before it refreshes the view: nothing is being typed any
more, the numbers in the log were there before or were on the display, and so was the number in the
memory. -/
structure Turns (k j : Keypad) : Prop where
  typing : j.typing = false
  checked : j.checked = k.checked
  display : j.display = k.display
  number : ∀ x, .number x ∈ j.log.steps → .number x ∈ k.log.steps ∨ k.displayValue? = some x
  memory : ∀ x, j.memory = some x → k.memory = some x ∨ k.displayValue? = some x

/-- The typed number and a symbol are recorded. -/
lemma turns_operation (k : Keypad) (symbol : Symbol) :
    k.Turns (k.commit.record (.operation symbol)) := by
  unfold commit
  rcases htyping : k.typing with _ | _
  · refine ⟨htyping, rfl, rfl, fun x hx => Or.inl ?_, fun x hx => Or.inl hx⟩
    simpa [record] using hx
  · rcases hvalue : k.displayValue? with _ | y
    · refine ⟨rfl, rfl, rfl, fun x hx => Or.inl ?_, fun x hx => Or.inl hx⟩
      simpa [record] using hx
    · refine ⟨rfl, rfl, rfl, fun x hx => ?_, fun x hx => Or.inl hx⟩
      have hmem : .number x ∈ k.log.steps ∨ x = y := by simpa [record] using hx
      exact hmem.imp_right fun heq => hvalue.trans (congrArg some heq.symm)

/-- A key press that refreshes the view is a refresh, after the typed number, a step or the memory
was recorded, or a step was taken away. -/
lemma exists_act_eq_refresh {k : Keypad} {a : Action} (h : k.refreshes a = true) (source : σ) :
    ∃ j, k.Turns j ∧ k.act table source a = j.refresh table source := by
  rcases a with text | symbol | _ | _ | _ | _
  · cases h
  · exact ⟨_, k.turns_operation symbol, rfl⟩
  · have htyping : k.typing = false := by simpa [refreshes] using h
    refine ⟨{ k with log := k.log.removeLast.2 }, ?_, by simp [act, erase, htyping]⟩
    exact ⟨htyping, rfl, rfl, fun x hx => Or.inl (List.mem_of_mem_dropLast hx),
      fun x hx => Or.inl hx⟩
  · cases h
  · obtain ⟨y, hy⟩ := Option.isSome_iff_exists.mp h
    refine ⟨{ k with memory := some y, typing := false }, ?_, by simp only [act, storeMemory, hy]⟩
    refine ⟨rfl, rfl, rfl, fun x hx => Or.inl hx, fun x hx => Or.inr ?_⟩
    rw [hy]
    exact hx
  · refine ⟨{ k.record (.variable memoryVariable) with typing := false }, ?_, rfl⟩
    refine ⟨rfl, rfl, rfl, fun x hx => Or.inl ?_, fun x hx => Or.inl hx⟩
    simpa [record] using hx

/-- A keypad stays consistent when an operation key is pressed. -/
lemma Consistent.operation {refreshed : Bool} {k : Keypad} (h : Consistent table refreshed k)
    (symbol : Symbol) (source : σ)
    (hfree : CustomFree table (k.operation table symbol source).1.log.steps) :
    Consistent table true (k.operation table symbol source).1 := by
  obtain ⟨log, later, hcommit, hlog⟩ := k.exists_commit_eq
  have hkeypad : k.commit.record (.operation symbol) =
      { k with log := log.append (.operation symbol), typing := false } := by
    rw [hcommit]
    rfl
  unfold Keypad.operation at hfree ⊢
  rw [hkeypad] at hfree ⊢
  rw [refresh_log] at hfree
  refine h.refresh_of_extension (later ++ [.operation symbol]) ?_ hfree source
  rw [Log.steps_append, hlog, List.append_assoc]

/-! ### Histories -/

/-- A keypad stays consistent under every key press after which its log is free of custom
symbols. -/
lemma Consistent.act {refreshed : Bool} {k : Keypad} (h : Consistent table refreshed k)
    (source : σ) (a : Action) (hfree : CustomFree table (k.act table source a).1.log.steps) :
    Consistent table (k.refreshedAfter refreshed a) (k.act table source a).1 := by
  cases a with
  | digit text =>
    have hafter : k.refreshedAfter refreshed (.digit text) = refreshed := by
      simp [refreshedAfter, refreshes]
    rw [hafter]
    exact h.digit (CodePoint.ofString text)
  | operation symbol =>
    have hafter : k.refreshedAfter refreshed (.operation symbol) = true := by
      simp [refreshedAfter, refreshes]
    rw [hafter]
    exact h.operation symbol source hfree
  | erase =>
    simp only [Keypad.act, erase] at hfree ⊢
    cases htyping : k.typing with
    | true => simpa [refreshedAfter, refreshes, htyping] using h.eraseChar htyping
    | false =>
      simp only [htyping, Bool.false_eq_true, if_false, refresh_log] at hfree
      simpa [refreshedAfter, refreshes, htyping] using h.refresh_of_undo htyping hfree source
  | clean => simpa [refreshedAfter, Keypad.act, clean] using consistent_new table k.checked
  | storeMemory =>
    have hlog : (k.storeMemory table source).1.log = k.log := by
      unfold Keypad.storeMemory
      split
      · rfl
      · rw [refresh_log]
    have hafter : k.refreshedAfter refreshed .storeMemory =
        (refreshed || k.displayValue?.isSome) := by
      simp [refreshedAfter, refreshes]
    rw [hafter]
    refine h.storeMemory source ?_
    rw [← hlog]
    exact hfree
  | recallMemory =>
    have hafter : k.refreshedAfter refreshed .recallMemory = true := by
      simp [refreshedAfter, refreshes]
    rw [hafter]
    simp only [Keypad.act, recallMemory, refresh_log] at hfree ⊢
    exact h.refresh_of_extension [.variable memoryVariable] rfl hfree source

/-- A refresh does not change whether the keypad is checked. -/
lemma refresh_checked (k : Keypad) (source : σ) :
    (k.refresh table source).1.checked = k.checked := by
  obtain ⟨_, _, h⟩ := k.exists_refresh_eq_present table source
  rw [h]
  rfl

/-- No key press changes whether the keypad is checked. -/
lemma act_checked (k : Keypad) (source : σ) (a : Action) :
    (k.act table source a).1.checked = k.checked := by
  cases a with
  | digit text =>
    simp only [act, digit?]
    split <;> rfl
  | operation symbol =>
    obtain ⟨log, later, hcommit, -⟩ := k.exists_commit_eq
    simp only [act, operation, refresh_checked, hcommit, record]
  | erase =>
    simp only [act, erase]
    split
    · unfold eraseChar
      simp only
      split <;> rfl
    · rw [refresh_checked]
  | clean => rfl
  | storeMemory =>
    simp only [act, storeMemory]
    split
    · rfl
    · rw [refresh_checked]
  | recallMemory => simp only [act, recallMemory, refresh_checked, record]

/-- No history changes whether the keypad is checked. -/
lemma perform_checked (k : Keypad) (source : σ) (actions : List Action) :
    (k.perform table source actions).1.checked = k.checked := by
  induction actions generalizing k source with
  | nil => rfl
  | cons a rest ih => exact (ih _ _).trans (act_checked k source a)

/-- A consistent keypad stays consistent at the end of a history in which its log is always free of
custom symbols. -/
lemma Consistent.perform {refreshed : Bool} {k : Keypad} (h : Consistent table refreshed k)
    (source : σ) (actions : List Action)
    (hfree : ∀ front, front <+: actions →
      CustomFree table (k.perform table source front).1.log.steps) :
    Consistent table (k.refreshedIn table source refreshed actions)
      (k.perform table source actions).1 := by
  induction actions generalizing k source refreshed with
  | nil => exact h
  | cons a rest ih =>
    have hfirst : CustomFree table (k.act table source a).1.log.steps :=
      hfree [a] (List.prefix_append [a] rest)
    refine ih (h.act source a hfirst) _ ?_
    intro front hfront
    exact hfree (a :: front) (List.cons_prefix_cons.mpr ⟨rfl, hfront⟩)

/-- The errors of a consistent keypad are domain errors. -/
lemma Consistent.domain_mem_lineage {refreshed : Bool} {k : Keypad}
    (h : Consistent table refreshed k) {e : CalculationError} (he : k.error = some e) (source : σ) :
    .domain ∈ e.kind.lineage :=
  domain_mem_lineage_of_evaluateIn (h.evaluateIn_of_error he source).2

/-- At the end of a history of key presses in which the log is always free of custom symbols,

* the keypad is blank if no key has refreshed its view since the last clean key, and otherwise
  description, pending flag and error are those of the present log under the present memory;
* the error, if there is one, is a domain error;
* a display that is neither being typed nor empty shows the reason of the error, or else the result,
  if there is one;
* a display that begins like that of an error is met only while there is an error. -/
theorem perform_view (checked : Bool) (source : σ) (actions : List Action)
    (hfree : ∀ front, front <+: actions →
      CustomFree table ((new checked).perform table source front).1.log.steps) :
    let k := ((new checked).perform table source actions).1
    k.checked = checked ∧
      (if (new checked).refreshedIn table source false actions then
        ∀ source', k.Viewed table source' else k.Blank) ∧
      (∀ e, k.error = some e → .domain ∈ e.kind.lineage) ∧
      (k.typing = false → k.display ≠ displayPlaceholder → ∀ source', k.Shows table source') ∧
      ("Error: ".toList <+: k.display.toList → k.error ≠ none) := by
  intro k
  have hk := (consistent_new table checked).perform source actions hfree
  refine ⟨perform_checked (new checked) source actions, ?_, ?_, hk.shown, hk.error_of_text⟩
  · split
    · rename_i hrefreshed
      exact hk.viewed hrefreshed
    · rename_i hrefreshed
      exact hk.blank (Bool.not_eq_true _ ▸ hrefreshed)
  · intro e he
    exact hk.domain_mem_lineage he source

/-- After `1 ÷ 0 =` and one undo on a checked keypad, neither the division by zero nor its text is
left. -/
theorem perform_view_of_undone_division :
    let table := Table.standard Supply.between
    let actions : List Action :=
      [.digit "1", .operation "÷", .digit "0", .operation "=", .erase]
    let k := ((new true).perform table ({} : Supply) actions).1
    (∀ front, front <+: actions →
        CustomFree table ((new true).perform table ({} : Supply) front).1.log.steps) ∧
      (new true).refreshedIn table ({} : Supply) false actions = true ∧ k.typing = false ∧
      k.error = none ∧ k.description = "1÷..." ∧ k.display = "0" ∧
      ¬ "Error: ".toList <+: k.display.toList := by
  intro table actions k
  have hfree : ∀ front, front <+: actions →
      CustomFree table ((new true).perform table ({} : Supply) front).1.log.steps := by
    intro front hfront
    have hall : ∀ front ∈ actions.inits,
        CustomFree table ((new true).perform table ({} : Supply) front).1.log.steps := by
      decide +kernel
    exact hall front ((List.mem_inits front actions).mpr hfront)
  have herror : k.error = none := Option.isNone_iff_eq_none.mp (by decide +kernel)
  obtain ⟨-, -, -, -, hstale⟩ := perform_view true ({} : Supply) actions hfree
  exact ⟨hfree, by decide +kernel, by decide +kernel, herror, by decide +kernel,
    by decide +kernel, fun htext => hstale htext herror⟩

end ReplayCalculator.Keypad
