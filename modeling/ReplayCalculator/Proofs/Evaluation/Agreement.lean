import Mathlib.Control.Monad.Basic
import Mathlib.Tactic.Lemma
import ReplayCalculator.Operation.Feed
import ReplayCalculator.Proofs.Evaluation.Course
import ReplayCalculator.Proofs.Replay.Strictness

/-!
# Modes that agree

Where a stricter mode has an evaluation, a more lenient one has the same. For lists from outside
this follows from the replays of their leading steps (`evaluateEntriesIn_eq_ok_of_strictness_le`).
That the two also make the same draws is the same fact about the table that records them
(`drawsIn_eq_of_strictness_le`). The lenient mode objects to nothing, so that it fails only at a
value that is no step. The main statement `evaluateEntriesIn_agree` puts these together.
-/

namespace ReplayCalculator

variable {σ : Type} {table : Table σ} {bindings : Bindings}

/-! ### Success -/

/-- An evaluation of a list from outside is also that of every mode that is less strict. -/
lemma evaluateEntriesIn_eq_ok_of_strictness_le {mode mode' : Mode}
    (hle : mode.strictness ≤ mode'.strictness) {entries : List Entry} {source source' : σ}
    {v : Evaluation}
    (h : evaluateEntriesIn table bindings mode' entries source = (.ok v, source')) :
    evaluateEntriesIn table bindings mode entries source = (.ok v, source') := by
  simp only [evaluateEntriesIn] at h ⊢
  rcases hsteps : evaluateIn table bindings mode' (Entry.leadingSteps entries).1 source with
    ⟨e | v', source''⟩
  · simp [hsteps] at h
  · rw [evaluateIn_eq_ok_of_strictness_le hle hsteps]
    rw [hsteps] at h
    exact h

/-- Where a stricter mode has an evaluation, every mode that is less strict makes the same draws. -/
lemma drawsIn_eq_of_strictness_le {mode mode' : Mode} (hle : mode.strictness ≤ mode'.strictness)
    {entries : List Entry} {source : σ} {v : Evaluation}
    (h : (evaluateEntriesIn table bindings mode' entries source).1 = .ok v) :
    drawsIn table bindings mode entries source = drawsIn table bindings mode' entries source := by
  rw [← evaluateEntriesIn_recording mode' entries source []] at h
  have hrecording := evaluateEntriesIn_eq_ok_of_strictness_le hle (Prod.ext h rfl)
  simp only [drawsIn, hrecording]

/-! ### Failure of the lenient mode -/

/-- The first value that is no step splits its list. -/
lemma leadingSteps_snd_eq_some_iff {entries : List Entry} {typeName : String} :
    (Entry.leadingSteps entries).2 = some typeName ↔
      ∃ (front : List Step) (rest : List Entry),
        entries = front.map .step ++ .foreign typeName :: rest := by
  constructor
  · intro h
    induction entries with
    | nil => cases h
    | cons entry rest ih =>
      rcases entry with step | typeName'
      · obtain ⟨front, rest', hrest⟩ := ih h
        exact ⟨step :: front, rest', by rw [hrest]; rfl⟩
      · cases h
        exact ⟨[], rest, rfl⟩
  · rintro ⟨front, rest, rfl⟩
    rw [leadingSteps_append]
    rfl

/-- The lenient mode fails at the first value that is no step, and at nothing else. -/
lemma evaluateEntriesIn_lenient_eq_error_iff {entries : List Entry} {source : σ} {e : EntryError} :
    (evaluateEntriesIn table bindings .lenient entries source).1 = .error e ↔
      ∃ typeName, (Entry.leadingSteps entries).2 = some typeName ∧ e = .foreign typeName := by
  simp only [evaluateEntriesIn, evaluateIn_lenient]
  cases (Entry.leadingSteps entries).2 with
  | none => simp
  | some typeName => simp [eq_comm]

/-- The three modes agree wherever they succeed: a strict evaluation is also the tolerant one, and a
tolerant evaluation is also the lenient one, with the same draws from the custom operations. The
lenient mode fails exactly if some entry is no step, and names the type of the first such entry. -/
theorem evaluateEntriesIn_agree (table : Table σ) (bindings : Bindings) (entries : List Entry)
    (source : σ) :
    (∀ v source', evaluateEntriesIn table bindings .strict entries source = (.ok v, source') →
        evaluateEntriesIn table bindings .tolerant entries source = (.ok v, source')) ∧
      (∀ v source', evaluateEntriesIn table bindings .tolerant entries source = (.ok v, source') →
        evaluateEntriesIn table bindings .lenient entries source = (.ok v, source') ∧
          drawsIn table bindings .lenient entries source =
            drawsIn table bindings .tolerant entries source) ∧
      ∀ e, (evaluateEntriesIn table bindings .lenient entries source).1 = .error e ↔
        ∃ (front : List Step) (typeName : String) (rest : List Entry),
          entries = front.map .step ++ .foreign typeName :: rest ∧ e = .foreign typeName := by
  refine ⟨?_, ?_, ?_⟩
  · intro v source' h
    exact evaluateEntriesIn_eq_ok_of_strictness_le (by decide) h
  · intro v source' h
    refine ⟨evaluateEntriesIn_eq_ok_of_strictness_le (by decide) h, ?_⟩
    exact drawsIn_eq_of_strictness_le (by decide) (congrArg Prod.fst h)
  · intro e
    rw [evaluateEntriesIn_lenient_eq_error_iff]
    constructor
    · rintro ⟨typeName, hforeign, rfl⟩
      obtain ⟨front, rest, hentries⟩ := leadingSteps_snd_eq_some_iff.mp hforeign
      exact ⟨front, typeName, rest, hentries, rfl⟩
    · rintro ⟨front, typeName, rest, hentries, rfl⟩
      exact ⟨typeName, leadingSteps_snd_eq_some_iff.mpr ⟨front, rest, hentries⟩, rfl⟩

/-- The sum of two random values, of which the first is replaced by its square root, is the same in
all modes and takes two draws. -/
theorem evaluateEntriesIn_agree_on_random_sum :
    let table := Table.standard Supply.between
    let supply : Supply := { numbers := ⟨3, [15]⟩ }
    let entries : List Entry :=
      [.step (.operation "Rand"), .step (.operation "√"), .step (.operation "+"),
        .step (.operation "Rand"), .step (.operation "=")]
    let v : Evaluation := ⟨some 63000, false, "√(250000)+62500"⟩
    evaluateEntriesIn table .empty .strict entries supply = (.ok v, supply) ∧
      evaluateEntriesIn table .empty .tolerant entries supply = (.ok v, supply) ∧
      evaluateEntriesIn table .empty .lenient entries supply = (.ok v, supply) ∧
      drawsIn table .empty .tolerant entries supply = [("Rand", 250000), ("Rand", 62500)] ∧
      drawsIn table .empty .lenient entries supply = [("Rand", 250000), ("Rand", 62500)] := by
  intro table supply entries v
  have hstrict : evaluateEntriesIn table .empty .strict entries supply = (.ok v, supply) := by
    decide +kernel
  have hdraws :
      drawsIn table .empty .tolerant entries supply = [("Rand", 250000), ("Rand", 62500)] := by
    decide +kernel
  obtain ⟨htolerant, hlenient, -⟩ := evaluateEntriesIn_agree table .empty entries supply
  have h := htolerant v supply hstrict
  obtain ⟨h', hsame⟩ := hlenient v supply h
  exact ⟨hstrict, h, h', hdraws, hsame.trans hdraws⟩

end ReplayCalculator
