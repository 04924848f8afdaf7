import Mathlib.Data.List.Infix
import ReplayCalculator.Operation.Feed
import ReplayCalculator.Proofs.Replay.Invariant

/-!
# How a description grows

While an operation waits for its second operand, nothing that has been written is written over:
every meaning puts its text behind the description, if it has a text at all
(`exists_description_after`). So the description of a log is the beginning of that of every
extension, as long as some operation waits in front of each further step
(`exists_description_of_runIn`). The last step may be the one that ends the waiting.

The main statement `coherent_and_growing_of_runIn` puts this beside the invariant of the replay
states, for all tables, bindings and modes.
-/

namespace ReplayCalculator

namespace Replay

/-! ### One step -/

/-- Nothing is written at all, or so much behind the description. -/
lemma exists_append_self (text : String) : ∃ more, text = text ++ more :=
  ⟨"", String.append_empty.symm⟩

/-- While an operation waits, an operand is written behind the description. -/
lemma exists_description_describe {s : Replay} (hp : s.pending ≠ none) (text : String) :
    ∃ more, s.describe text = s.description ++ more := by
  have hwaits : s.pending.isSome = true := Option.isSome_iff_ne_none.mpr hp
  exact ⟨text, if_pos hwaits⟩

/-- While an operation waits, an operation of one operand is written behind the description. -/
lemma exists_description_applyUnary {s : Replay} (hp : s.pending ≠ none) (symbol : String)
    (f : Unary) (x : Float) :
    ∃ more, (s.applyUnary symbol f x).description = s.description ++ more := by
  have hwaits : s.pending.isSome = true := Option.isSome_iff_ne_none.mpr hp
  refine ⟨symbol ++ "(" ++ Number.shown x ++ ")", ?_⟩
  simp only [applyUnary, hwaits, if_true, String.append_assoc]

/-- The symbol of an operation of two operands is written behind the description, and the first
operand in front of it where it was not written before. -/
lemma exists_description_applyBinary (s : Replay) (symbol : String) (f : Binary) (x : Float) :
    ∃ more, (s.applyBinary symbol f x).description = s.description ++ more := by
  unfold applyBinary
  split
  · exact ⟨symbol, rfl⟩
  · exact ⟨_, String.append_assoc⟩

/-- An equals symbol writes the second operand behind the description, where it was not written
before. -/
lemma exists_description_applyEquals (s : Replay) (x : Float) :
    ∃ more, (s.applyEquals x).description = s.description ++ more := by
  simp only [applyEquals]
  split
  · exact ⟨_, rfl⟩
  · exact exists_append_self _

/-- While an operation waits, every meaning leaves the description as the beginning of the new
one. -/
lemma exists_description_after {s : Replay} (hp : s.pending ≠ none) (m : Meaning) :
    ∃ more, (s.after m).description = s.description ++ more := by
  rcases m with x | ⟨name, x⟩ | x | ⟨symbol, f⟩ | ⟨symbol, f⟩ | symbol | x | _
  · simp only [after]
    split
    · exact exists_append_self _
    · exact exists_description_describe hp _
  · exact exists_description_describe hp _
  · exact exists_description_describe hp _
  · rcases hacc : s.accumulator with _ | x <;> simp only [after, hacc, Option.elim]
    · exact exists_append_self _
    · exact exists_description_applyUnary hp symbol f x
  · rcases hacc : s.accumulator with _ | x <;> simp only [after, hacc, Option.elim]
    · exact exists_append_self _
    · exact exists_description_applyBinary s symbol f x
  · rcases hacc : s.accumulator with _ | x <;> simp only [after, hacc, Option.elim]
    · exact exists_append_self _
    · exact exists_description_applyEquals s x
  · exact exists_description_describe hp _
  · exact exists_append_self _

/-! ### Runs -/

variable {σ : Type} {table : Table σ} {bindings : Bindings}

/-- A run of which every step is met while an operation waits leaves the description as the
beginning of the new one. -/
lemma exists_description_of_runIn {mode : Mode} {s t : Replay} {steps : List Step}
    {source source' : σ} (h : runIn table bindings mode s steps source = (.ok t, source'))
    (hwaits : ∀ front, front <+: steps → front ≠ steps →
      ∀ u, (runIn table bindings mode s front source).1 = .ok u → u.pending ≠ none) :
    ∃ more, t.description = s.description ++ more := by
  induction steps generalizing s source with
  | nil =>
    cases h
    exact exists_append_self _
  | cons step rest ih =>
    have hp : s.pending ≠ none := hwaits [] List.nil_prefix (List.cons_ne_nil step rest).symm s rfl
    rw [runIn_cons] at h
    rcases hobj : s.objection? mode (step.meaning table bindings source).1 with _ | e
    · rw [hobj] at h
      obtain ⟨more, hrest⟩ := ih h fun front hfront hne u hu => by
        refine hwaits (step :: front) (List.cons_prefix_cons.mpr ⟨rfl, hfront⟩)
          (by simpa using hne) u ?_
        rw [runIn_cons, hobj]
        exact hu
      obtain ⟨text, hstep⟩ := exists_description_after hp (step.meaning table bindings source).1
      exact ⟨text ++ more, by rw [hrest, hstep, String.append_assoc]⟩
    · rw [hobj] at h
      cases h

/-- A run that ends well ends well on every part of its steps from the start. -/
lemma exists_runIn_of_append {mode : Mode} {s t : Replay} {front later : List Step}
    {source source' : σ}
    (h : runIn table bindings mode s (front ++ later) source = (.ok t, source')) :
    ∃ u source'', runIn table bindings mode s front source = (.ok u, source'') ∧
      runIn table bindings mode u later source'' = (.ok t, source') := by
  rw [runIn_append] at h
  rcases hfront : runIn table bindings mode s front source with ⟨e | u, source''⟩
  · rw [hfront] at h
    cases h
  · rw [hfront] at h
    exact ⟨u, source'', rfl, h⟩

/-- At the end of a replay that its mode does not stop, the state is coherent: after a binary symbol
an operation waits whose symbol ends the description, after an equals symbol none does, and without
an accumulator either nothing has happened or a binary symbol came last. If an operation waits then,
every further step only writes behind the description. And the description of a part of the log from
the start is the beginning of that of the whole log, if an operation waits at the end of this part
and of every longer one but the whole. -/
theorem coherent_and_growing_of_runIn {mode : Mode} {steps : List Step} {source source' : σ}
    {t : Replay} (h : runIn table bindings mode start steps source = (.ok t, source')) :
    t.Coherent ∧
      (t.pending ≠ none → ∀ step : Step, ∃ more,
        (t.after (step.meaning table bindings source').1).description = t.description ++ more) ∧
      ∀ front later, steps = front ++ later →
        (∀ between, between <+: later → between ≠ later →
          ∀ u, (runIn table bindings mode start (front ++ between) source).1 = .ok u →
            u.pending ≠ none) →
        ∃ s more, (runIn table bindings mode start front source).1 = .ok s ∧
          t.description = s.description ++ more := by
  refine ⟨coherent_of_runIn_eq_ok h, fun hp step => exists_description_after hp _, ?_⟩
  rintro front later rfl hwaits
  obtain ⟨s, source'', hfront, hlater⟩ := exists_runIn_of_append h
  obtain ⟨more, hmore⟩ := exists_description_of_runIn hlater fun between hbetween hne u hu => by
    refine hwaits between hbetween hne u ?_
    rw [runIn_append, hfront]
    exact hu
  exact ⟨s, more, by rw [hfront], hmore⟩

/-- The memory is added to three, and the sum multiplied by the root of five: the description of the
sum that waits is the beginning of that of the whole log, whose last step ends the waiting. -/
theorem coherent_and_growing_of_runIn_of_root :
    let table := Table.standard Supply.between
    let front : List Step := [.number 3, .operation "+"]
    let later : List Step :=
      [.variable "M", .operation "×", .number 5, .operation "√", .operation "="]
    let t := (run table .empty start (front ++ later) ({} : Supply)).1
    runIn table .empty .strict start (front ++ later) ({} : Supply) = (.ok t, {}) ∧
      (∀ between, between <+: later → between ≠ later → ∀ u,
        (runIn table .empty .strict start (front ++ between) ({} : Supply)).1 = .ok u →
          u.pending ≠ none) ∧
      t.Coherent ∧ t.description = "3+M×√(5)" ∧
      ∃ s more, (runIn table .empty .strict start front ({} : Supply)).1 = .ok s ∧
        t.description = s.description ++ more := by
  intro table front later t
  have hrun : runIn table .empty .strict start (front ++ later) ({} : Supply) = (.ok t, {}) := by
    rfl
  have hwaits : ∀ between, between <+: later → between ≠ later → ∀ u,
      (runIn table .empty .strict start (front ++ between) ({} : Supply)).1 = .ok u →
        u.pending ≠ none := by
    intro between hbetween hne u hu
    have hall : ∀ between ∈ later.inits, between ≠ later →
        ((runIn table .empty .strict start (front ++ between) ({} : Supply)).1.toOption.bind
          pending).isSome = true := by
      decide +kernel
    have hsome := hall between ((List.mem_inits between later).mpr hbetween) hne
    rw [hu] at hsome
    exact Option.isSome_iff_ne_none.mp hsome
  obtain ⟨hcoherent, -, hgrows⟩ := coherent_and_growing_of_runIn hrun
  exact ⟨hrun, hwaits, hcoherent, by decide +kernel, hgrows front later rfl hwaits⟩

end Replay

end ReplayCalculator
