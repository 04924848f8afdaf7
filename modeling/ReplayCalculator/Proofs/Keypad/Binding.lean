import ReplayCalculator.Proofs.Decimal.Plain
import ReplayCalculator.Proofs.Keypad.Entered
import ReplayCalculator.Proofs.Keypad.View

/-!
# When the memory is bound

A recorded variable is looked up when the log is replayed, and not when it is recorded. So it makes
no difference whether the memory is bound before some keys are pressed or after them. In the
meantime the two keypads differ: one of them replays each log with the new memory and the other one
with the old memory, so that results, descriptions and errors are different. At the end they agree,
for three reasons.

* Which steps are recorded does not depend on what is computed (`entered_perform`).
* Without a store or a clean key the memory stays (`memory_perform`).
* Description, flag and error never lag behind the log and the memory (`Current`): they are
  determined by these two (`Current.eq_of_log_eq`).

The display is not among the things that agree. The main statement is `perform_bindingKeys_comm`.
-/

namespace ReplayCalculator.Keypad

variable {σ : Type} (table : Table σ)

/-! ### Keys that bind the memory -/

/-- The keys that type a text. -/
def typingKeys (cs : List Char) : List Action := cs.map fun c => .digit (String.singleton c)

/-- The keys that bind the memory to a numeral. -/
def bindingKeys (cs : List Char) : List Action := typingKeys cs ++ [.storeMemory]

/-- A plain character is a digit key. -/
lemma digitKey?_of_isPlain {c : Char} (hc : Numeral.isPlain c = true) :
    digitKey? (CodePoint.ofString (String.singleton c)) = some c := by
  have hdigits : ∀ n < 58, 48 ≤ n → Char.ofNat n ∈ digitKeys.toList := by decide
  have hmem : c ∈ digitKeys.toList := by
    simp only [Numeral.isPlain, Numeral.isDigit, Bool.or_eq_true, Bool.and_eq_true,
      decide_eq_true_eq, beq_iff_eq] at hc
    rcases hc with ⟨hlow, hhigh⟩ | rfl
    · rw [← Char.ofNat_toNat c]
      exact hdigits c.toNat (Nat.lt_succ_of_le hhigh) hlow
    · decide
  simp [CodePoint.ofString, digitKey?, hmem]

variable {table}

/-- A plain character is typed by its key. -/
lemma act_digit {c : Char} (hc : Numeral.isPlain c = true) (k : Keypad) (source : σ) :
    k.act table source (.digit (String.singleton c)) = (k.typeChar c, source) := by
  simp only [act, digit?, digitKey?_of_isPlain hc]
  rfl

/-- What is typed goes to the end of the text that is being typed, as long as that has one point at
most. -/
lemma perform_typingKeys_of_typing (table : Table σ) {cs : List Char} {k : Keypad}
    (htyping : k.typing = true) (hplain : ∀ c ∈ cs, Numeral.isPlain c = true)
    (hpoint : (k.display.toList ++ cs).count '.' ≤ 1) (source : σ) :
    k.perform table source (typingKeys cs) =
      ({ k with display := String.ofList (k.display.toList ++ cs) }, source) := by
  induction cs generalizing k with
  | nil =>
    rw [List.append_nil, String.ofList_toList]
    rfl
  | cons c rest ih =>
    have htype : k.typeChar c = { k with display := k.display.push c } := by
      have hone : ¬ (c = '.' ∧ k.display.toList.contains '.') := by
        rintro ⟨rfl, hcontains⟩
        have hpos := List.count_pos_iff.mpr (List.contains_iff_mem.mp hcontains)
        rw [List.count_append, List.count_cons_self] at hpoint
        omega
      simp only [typeChar, htyping, if_true, if_neg hone]
    have hsplit : (k.display.push c).toList ++ rest = k.display.toList ++ c :: rest := by
      rw [String.toList_push, List.append_assoc, List.singleton_append]
    simp only [typingKeys, List.map_cons, perform]
    rw [act_digit (hplain c List.mem_cons_self), htype]
    have hrest := ih (k := { k with display := k.display.push c }) htyping
      (fun d hd => hplain d (List.mem_cons_of_mem _ hd)) (by rw [hsplit]; exact hpoint)
    rw [hsplit] at hrest
    exact hrest

/-- A numeral that is typed on a keypad that is not being typed on stands alone on the display. -/
lemma perform_typingKeys {cs : List Char} (h : Numeral.IsPlainNumeral cs) {k : Keypad}
    (htyping : k.typing = false) (source : σ) :
    k.perform table source (typingKeys cs) =
      ({ k with display := String.ofList cs, typing := true }, source) := by
  obtain ⟨d, hd, -⟩ := h.exists_digit
  obtain ⟨c, rest, rfl⟩ := List.exists_cons_of_ne_nil (List.ne_nil_of_mem hd)
  have htype : k.typeChar c = { k with display := String.singleton c, typing := true } := by
    simp [typeChar, htyping]
  simp only [typingKeys, List.map_cons, perform]
  rw [act_digit (h.isPlain c List.mem_cons_self), htype]
  have hrest := perform_typingKeys_of_typing table
    (k := { k with display := String.singleton c, typing := true }) rfl
    (fun d hd => h.isPlain d (List.mem_cons_of_mem _ hd))
    (by rw [String.toList_singleton]; exact h.count_point) source
  rw [String.toList_singleton] at hrest
  exact hrest

/-! ### The memory -/

/-- Only the store key and the clean key change the memory. -/
lemma memory_act {k : Keypad} {a : Action} (hstore : a ≠ .storeMemory) (hclean : a ≠ .clean)
    (source : σ) : (k.act table source a).1.memory = k.memory := by
  rcases a with text | symbol | _ | _ | _ | _
  · simp only [act, digit?]
    split <;> rfl
  · obtain ⟨log, later, hcommit, -⟩ := k.exists_commit_eq
    simp only [act, operation, refresh_memory, hcommit, record]
  · simp only [act, erase]
    split
    · unfold eraseChar
      simp only
      split <;> rfl
    · rw [refresh_memory]
  · exact absurd rfl hclean
  · exact absurd rfl hstore
  · simp only [act, recallMemory, refresh_memory, record]

/-- A history without store and clean keys leaves the memory as it is. -/
lemma memory_perform {k : Keypad} {actions : List Action}
    (h : ∀ a ∈ actions, a ≠ .storeMemory ∧ a ≠ .clean) (source : σ) :
    (k.perform table source actions).1.memory = k.memory := by
  induction actions generalizing k source with
  | nil => rfl
  | cons a rest ih =>
    obtain ⟨hstore, hclean⟩ := h a List.mem_cons_self
    exact (ih (fun b hb => h b (List.mem_cons_of_mem _ hb)) _).trans
      (memory_act hstore hclean source)

/-! ### Views that do not lag behind -/

/-- If the log is free of custom symbols, then description, flag and error are those of its
evaluation. -/
def Current (table : Table σ) (k : Keypad) : Prop :=
  CustomFree table k.log.steps → ∀ source, k.Viewed table source

/-- After a refresh the view is current. -/
lemma current_refresh (k : Keypad) (source : σ) : Current table (k.refresh table source).1 := by
  intro hfree source'
  rw [refresh_log] at hfree
  exact viewed_refresh hfree source source'

/-- Display and typing flag are no part of the view. -/
lemma Current.withDisplay {k : Keypad} (h : Current table k) (display : String) (typing : Bool) :
    Current table { k with display, typing } := fun hfree source =>
  ⟨(h hfree source).description, (h hfree source).isPending, (h hfree source).error⟩

/-- Only the clean key can take away that the view is current. -/
lemma Current.act {k : Keypad} (h : Current table k) {a : Action} (hclean : a ≠ .clean)
    (source : σ) : Current table (k.act table source a).1 := by
  rcases a with text | symbol | _ | _ | _ | _
  · simp only [Keypad.act, digit?]
    split
    · exact h
    · exact h.withDisplay _ _
  · exact current_refresh _ source
  · simp only [Keypad.act, erase]
    split
    · unfold eraseChar
      simp only
      split
      · exact h.withDisplay _ _
      · exact h.withDisplay _ k.typing
    · exact current_refresh _ source
  · exact absurd rfl hclean
  · simp only [Keypad.act, storeMemory]
    split
    · exact h
    · exact current_refresh _ source
  · exact current_refresh _ source

/-- A history without clean keys keeps the view current. -/
lemma Current.perform {k : Keypad} (h : Current table k) {actions : List Action}
    (hclean : ∀ a ∈ actions, a ≠ .clean) (source : σ) :
    Current table (k.perform table source actions).1 := by
  induction actions generalizing k source with
  | nil => exact h
  | cons a rest ih =>
    refine ih (h.act (hclean a List.mem_cons_self) source) ?_ _
    exact fun b hb => hclean b (List.mem_cons_of_mem _ hb)

/-- Current views of the same log under the same memory are the same. -/
lemma Current.eq_of_log_eq {k k' : Keypad} (h : Current table k) (h' : Current table k')
    (hlog : k.log = k'.log) (hmemory : k.memory = k'.memory) (hchecked : k.checked = k'.checked)
    (hfree : CustomFree table k.log.steps) (source : σ) :
    k.description = k'.description ∧ k.isPending = k'.isPending ∧ k.error = k'.error := by
  have hview := h hfree source
  have hview' := h' (hlog ▸ hfree) source
  have hbindings : k.bindings = k'.bindings := by simp only [bindings, hmemory]
  refine ⟨?_, ?_, ?_⟩
  · rw [hview.description, hview'.description, hbindings, hlog]
  · rw [hview.isPending, hview'.isPending, hbindings, hlog]
  · refine Option.ext fun e => ?_
    rw [hview.error, hview'.error, hchecked, hbindings, hlog]

/-! ### Binding the memory -/

/-- When the memory has been bound to a numeral, it holds the value of the numeral, nothing else was
entered, and the view is current. -/
lemma exists_perform_bindingKeys (table : Table σ) {cs : List Char}
    (h : Numeral.IsPlainNumeral cs) {k : Keypad} (htyping : k.typing = false) (source : σ) :
    ∃ x, Numeral.read? (String.ofList cs) = some x ∧
      (k.perform table source (bindingKeys cs)).1.memory = some x ∧
      (k.perform table source (bindingKeys cs)).1.entered = k.entered ∧
      Current table (k.perform table source (bindingKeys cs)).1 := by
  obtain ⟨x, hread, -⟩ := Numeral.exists_read?_of_isPlainNumeral h
  have hbound : k.perform table source (bindingKeys cs) =
      { k with display := String.ofList cs, memory := some x, typing := false }.refresh table
        source := by
    rw [bindingKeys, perform_append, perform_typingKeys h htyping]
    simp only [perform, act, storeMemory, displayValue?, hread]
  refine ⟨x, hread, ?_, ?_, ?_⟩
  · rw [hbound, refresh_memory]
  · rw [hbound, entered_refresh table rfl]
    simp [entered, htyping]
  · rw [hbound]
    exact current_refresh _ source

/-! ### Before and after -/

/-- Binding the memory to a numeral before some keys are pressed or after them leads to the same
log, memory, description, flag and error. The keys are neither store nor clean keys, and nothing is
being typed when the memory is bound. -/
theorem perform_bindingKeys_comm (table : Table σ) (k : Keypad) (source : σ)
    (before later : List Action) (cs : List Char) (hnumeral : Numeral.IsPlainNumeral cs)
    (hbefore : (k.perform table source before).1.typing = false)
    (hlater : (k.perform table source (before ++ later)).1.typing = false)
    (hkeys : ∀ a ∈ later, a ≠ .storeMemory ∧ a ≠ .clean)
    (hfree : CustomFree table (k.perform table source (before ++ later)).1.log.steps) :
    let early := (k.perform table source (before ++ bindingKeys cs ++ later)).1
    let late := (k.perform table source (before ++ later ++ bindingKeys cs)).1
    (∃ x, Numeral.read? (String.ofList cs) = some x ∧ early.memory = some x ∧
        late.memory = some x) ∧
      early.log = late.log ∧ early.description = late.description ∧
      early.isPending = late.isPending ∧ early.error = late.error := by
  intro early late
  have hearly : early = (((k.perform table source before).1.perform table
      (k.perform table source before).2 (bindingKeys cs)).1.perform table
      (k.perform table source (before ++ bindingKeys cs)).2 later).1 := by
    simp only [early, perform_append]
  have hlate : late = ((k.perform table source (before ++ later)).1.perform table
      (k.perform table source (before ++ later)).2 (bindingKeys cs)).1 := by
    simp only [late, perform_append]
  obtain ⟨x, hx, hmemory, hentered, hcurrent⟩ := exists_perform_bindingKeys table hnumeral hbefore
    (k.perform table source before).2
  obtain ⟨y, hy, hmemory', hentered', hcurrent'⟩ := exists_perform_bindingKeys table hnumeral hlater
    (k.perform table source (before ++ later)).2
  obtain rfl : x = y := Option.some.inj (hx.symm.trans hy)
  rw [← hlate] at hmemory' hentered' hcurrent'
  have hmemory : early.memory = some x := by
    rw [hearly, memory_perform hkeys, hmemory]
  have hsame : early.entered = late.entered := by
    calc early.entered = (k.perform table source before).1.entered.perform later := by
          rw [hearly, entered_perform table _ _ later, hentered]
      _ = (k.perform table source (before ++ later)).1.entered := by
          rw [perform_append, entered_perform table _ _ later]
      _ = late.entered := hentered'.symm
  have hcurrent : Current table early := by
    rw [hearly]
    exact hcurrent.perform (fun a ha => (hkeys a ha).2) _
  have hlog : early.log = late.log := congrArg Entered.log hsame
  have hchecked : early.checked = late.checked := by
    simp only [early, late, perform_checked]
  have hfree : CustomFree table early.log.steps := by
    rw [hlog, show late.log = _ from congrArg Entered.log hentered']
    exact hfree
  obtain ⟨hdescription, hpending, herror⟩ := hcurrent.eq_of_log_eq hcurrent' hlog
    (hmemory.trans hmemory'.symm) hchecked hfree source
  exact ⟨⟨x, hx, hmemory, hmemory'⟩, hlog, hdescription, hpending, herror⟩

/-- Six is divided by the memory, and five is added after a step was taken back. If the memory is
not bound before, then the division fails, and its error stays until the memory is bound. -/
theorem perform_bindingKeys_comm_of_division :
    let table := Table.standard Supply.between
    let before : List Action := [.digit "6", .operation "÷"]
    let later : List Action :=
      [.recallMemory, .operation "=", .operation "√", .erase, .operation "+", .digit "1", .erase,
        .digit "5", .operation "="]
    let cs := ['2', '.', '5', '0']
    let early := ((new true).perform table ({} : Supply) (before ++ bindingKeys cs ++ later)).1
    let late := ((new true).perform table ({} : Supply) (before ++ later ++ bindingKeys cs)).1
    Numeral.IsPlainNumeral cs ∧ ((new true).perform table ({} : Supply) before).1.typing = false ∧
      ((new true).perform table ({} : Supply) (before ++ later)).1.typing = false ∧
      (∀ a ∈ later, a ≠ .storeMemory ∧ a ≠ .clean) ∧
      CustomFree table ((new true).perform table ({} : Supply) (before ++ later)).1.log.steps ∧
      ((new true).perform table ({} : Supply) (before ++ later)).1.error.isSome = true ∧
      early.memory = some (5 / 2) ∧ early.description = "6÷M+5=" ∧ early.error = none ∧
      late.memory = some (5 / 2) ∧ early.log = late.log ∧ early.description = late.description ∧
      early.isPending = late.isPending ∧ early.error = late.error := by
  intro table before later cs early late
  have hnumeral : Numeral.IsPlainNumeral cs :=
    ⟨List.all_eq_true.mp (by decide), by decide, '2', by decide, by decide⟩
  have hbefore : ((new true).perform table ({} : Supply) before).1.typing = false := by
    decide +kernel
  have hlater : ((new true).perform table ({} : Supply) (before ++ later)).1.typing = false := by
    decide +kernel
  have hkeys : ∀ a ∈ later, a ≠ .storeMemory ∧ a ≠ .clean := by decide +kernel
  have hfree : CustomFree table
      ((new true).perform table ({} : Supply) (before ++ later)).1.log.steps := by decide +kernel
  have hvalue : early.memory = some (5 / 2) := by decide +kernel
  obtain ⟨⟨x, -, hearly, hlate⟩, hlog, hdescription, hpending, herror⟩ :=
    perform_bindingKeys_comm table (new true) ({} : Supply) before later cs hnumeral hbefore hlater
      hkeys hfree
  exact ⟨hnumeral, hbefore, hlater, hkeys, hfree, by decide +kernel, hvalue, by decide +kernel,
    by decide +kernel, hlate.trans (hearly.symm.trans hvalue), hlog, hdescription, hpending, herror⟩

end ReplayCalculator.Keypad
