import Mathlib.Order.Bounds.Basic
import Mathlib.Order.WellFounded
import ReplayCalculator.Evaluation.Entry
import ReplayCalculator.Proofs.Replay.Invariant

/-!
# Where an evaluation fails, and how

A list from outside is evaluated from left to right, and whether an entry fails depends on the state
that the entries in front of it have built. `Failure` says in terms of the table, the mode and that
state which entries fail and with which error; there are four ways:

* a known symbol finds no operand (only in the strict mode);
* an operation of one operand does not accept the accumulator;
* an operation that waits does not accept its two operands. The error names the operation that
  waits, although a later symbol has brought it to light;
* a value is no step at all.

`FailsAt` places a failure in a list: the entries in front are steps, and the state is the one in
which their *lenient* replay ends. The main statement
`evaluateEntriesIn_eq_error_iff_isLeast` compares this with the evaluator, which never looks at the
lenient replay: an evaluation raises exactly if some entry fails, and its error is that of the
foremost one.
-/

namespace ReplayCalculator

/-! ### Operands that are not accepted -/

/-- The reasons for which operands are not accepted: the one that the domain gives when it refuses
them, or else the fault of the function. -/
inductive Rejection (refusal : Option String) (outcome : Except Fault Float) : String → Prop
  | refused {reason : String} (h : refusal = some reason) : Rejection refusal outcome reason
  | overflow (h : refusal = none) (hf : outcome = .error .overflow) :
      Rejection refusal outcome "result out of range"
  | invalid (h : refusal = none) (hf : outcome = .error .invalid) :
      Rejection refusal outcome "math domain error"

/-- The kind of a domain error: divisions by zero are told from the others by the reason. -/
def ErrorKind.ofReason (reason : String) : ErrorKind :=
  if reason = "division by zero" then .divisionByZero else .domain

/-- The reason found by asking the domain before the function is the one reason of a rejection. -/
lemma or_reasonOf_eq_some_iff {refusal : Option String} {outcome : Except Fault Float}
    {reason : String} :
    refusal.or (Fault.reasonOf outcome) = some reason ↔ Rejection refusal outcome reason := by
  constructor
  · intro h
    cases hr : refusal with
    | some r =>
      rw [hr] at h
      exact .refused h
    | none =>
      rw [hr, Option.none_or] at h
      rcases outcome with (_ | _) | y
      · cases h
        exact .overflow rfl rfl
      · cases h
        exact .invalid rfl rfl
      · cases h
  · rintro (h | ⟨h, hf⟩ | ⟨h, hf⟩)
    · rw [h]; rfl
    · rw [h, hf]; rfl
    · rw [h, hf]; rfl

variable {σ : Type} (table : Table σ) (bindings : Bindings)

/-! ### Failing entries -/

/-- `Failure table mode s entry e`: met in the state `s`, the entry fails with the error `e`. -/
inductive Failure (mode : Mode) (s : Replay) : Entry → EntryError → Prop
  | missing {symbol : String} {operation : Operation σ} (hmode : mode = .strict)
      (hfound : table.get? symbol = some operation)
      (hkind : operation.kind = .unary ∨ operation.kind = .binary ∨ operation.kind = .equals)
      (hacc : s.accumulator = none) :
      Failure mode s (.step (.operation symbol))
        (.calculation ⟨.missingOperand, symbol, [], "missing operand"⟩)
  | unary {symbol : String} {f : Unary} {x : Float} {reason : String} (hmode : mode ≠ .lenient)
      (hfound : table.get? symbol = some (.unary f)) (hacc : s.accumulator = some x)
      (hreject : Rejection (f.refusal? x) (f.function x) reason) :
      Failure mode s (.step (.operation symbol))
        (.calculation ⟨.ofReason reason, symbol, [x], reason⟩)
  | resolve {symbol : String} {operation : Operation σ} {p : Pending} {y : Float} {reason : String}
      (hmode : mode ≠ .lenient) (hfound : table.get? symbol = some operation)
      (hkind : operation.kind = .binary ∨ operation.kind = .equals)
      (hacc : s.accumulator = some y) (hpending : s.pending = some p)
      (hreject : Rejection (p.function.refusal? p.first y) (p.function.function p.first y) reason) :
      Failure mode s (.step (.operation symbol))
        (.calculation ⟨.ofReason reason, p.symbol, [p.first, y], reason⟩)
  | foreign (typeName : String) : Failure mode s (.foreign typeName) (.foreign typeName)

/-- The entry at place `i` of the list fails with the error `e`: the entries in front of it are
steps, and it fails in the state in which their lenient replay from `s` ends. -/
def FailsAt (mode : Mode) (s : Replay) (entries : List Entry) (source : σ) (i : Nat)
    (e : EntryError) : Prop :=
  ∃ (front : List Step) (entry : Entry) (rest : List Entry),
    entries = front.map .step ++ entry :: rest ∧ front.length = i ∧
      Failure table mode (Replay.run table bindings s front source).1 entry e

/-- The error `e` is that of the foremost place that fails. -/
def FailsFirst (mode : Mode) (s : Replay) (entries : List Entry) (source : σ) (e : EntryError) :
    Prop :=
  ∃ i, FailsAt table bindings mode s entries source i e ∧
    ∀ j < i, ∀ e', ¬ FailsAt table bindings mode s entries source j e'

/-- The places at which an evaluation of the list has to fail. -/
def failingPlaces (mode : Mode) (entries : List Entry) (source : σ) : Set Nat :=
  {i | ∃ e, FailsAt table bindings mode .start entries source i e}

/-! ### Failures and objections -/

/-- An error that reports a violation has the kind of its reason. -/
lemma violation_eq (symbol : String) (operands : List Float) (reason : String) :
    CalculationError.violation symbol operands reason =
      ⟨.ofReason reason, symbol, operands, reason⟩ := rfl

/-- Objections to the operand of a unary symbol are rejections by its own operation. -/
lemma violation?_unary_eq_some_iff {s : Replay} {symbol : String} {f : Unary}
    {c : CalculationError} :
    s.violation? (.unary symbol f) = some c ↔
      ∃ x reason, s.accumulator = some x ∧ Rejection (f.refusal? x) (f.function x) reason ∧
        c = ⟨.ofReason reason, symbol, [x], reason⟩ := by
  simp only [Replay.violation?, Option.bind_eq_some_iff, Option.map_eq_some_iff, Unary.violation?,
    or_reasonOf_eq_some_iff, violation_eq]
  constructor
  · rintro ⟨x, hx, reason, hr, rfl⟩
    exact ⟨x, reason, hx, hr, rfl⟩
  · rintro ⟨x, reason, hx, hr, rfl⟩
    exact ⟨x, hx, reason, hr, rfl⟩

/-- Objections to the operands of an operation that waits are rejections by that operation. -/
lemma bind_violation?_eq_some_iff {s : Replay} {c : CalculationError} :
    (s.accumulator.bind fun y => s.pending.bind (·.violation? y)) = some c ↔
      ∃ p y reason, s.accumulator = some y ∧ s.pending = some p ∧
        Rejection (p.function.refusal? p.first y) (p.function.function p.first y) reason ∧
        c = ⟨.ofReason reason, p.symbol, [p.first, y], reason⟩ := by
  simp only [Option.bind_eq_some_iff, Pending.violation?, Option.map_eq_some_iff,
    Binary.violation?, or_reasonOf_eq_some_iff, violation_eq]
  constructor
  · rintro ⟨y, hy, p, hp, reason, hr, rfl⟩
    exact ⟨p, y, reason, hy, hp, hr, rfl⟩
  · rintro ⟨p, y, reason, hy, hp, hr, rfl⟩
    exact ⟨y, hy, p, hp, reason, hr, rfl⟩

variable {table bindings}

/-- A missing operand is objected to at the known unary, binary and equals symbols. -/
lemma missing?_meaning_eq_some_iff {s : Replay} {symbol : String} {operation : Operation σ}
    {source : σ} {c : CalculationError} :
    s.missing? (operation.meaning symbol source).1 = some c ↔
      (operation.kind = .unary ∨ operation.kind = .binary ∨ operation.kind = .equals) ∧
        s.accumulator = none ∧ c = ⟨.missingOperand, symbol, [], "missing operand"⟩ := by
  rcases operation with x | f | f | _ | draw <;> cases hacc : s.accumulator <;>
    simp [Operation.meaning, Operation.kind, Replay.missing?, hacc,
      CalculationError.missingOperand, ErrorKind.reason, eq_comm]

/-- A step fails exactly if the mode objects to its meaning, and with that objection. -/
lemma failure_step_iff {mode : Mode} {s : Replay} {step : Step} {e : EntryError}
    (bindings : Bindings) (source : σ) :
    Failure table mode s (.step step) e ↔
      ∃ c, s.objection? mode (step.meaning table bindings source).1 = some c ∧
        e = .calculation c := by
  simp only [Replay.objection?_eq_some_iff]
  constructor
  · intro h
    cases h with
    | @missing symbol operation hmode hfound hkind hacc =>
      refine ⟨_, Or.inl ⟨hmode, ?_⟩, rfl⟩
      rw [Step.meaning_of_get? hfound]
      exact missing?_meaning_eq_some_iff.mpr ⟨hkind, hacc, rfl⟩
    | @unary symbol f x reason hmode hfound hacc hreject =>
      refine ⟨_, Or.inr ⟨hmode, ?_⟩, rfl⟩
      rw [Step.meaning_of_get? hfound]
      exact violation?_unary_eq_some_iff.mpr ⟨x, reason, hacc, hreject, rfl⟩
    | @resolve symbol operation p y reason hmode hfound hkind hacc hpending hreject =>
      refine ⟨_, Or.inr ⟨hmode, ?_⟩, rfl⟩
      have hviolation := bind_violation?_eq_some_iff.mpr
        ⟨p, y, reason, hacc, hpending, hreject, rfl⟩
      rw [Step.meaning_of_get? hfound]
      rcases operation with x | f | f | _ | draw <;> simp [Operation.kind] at hkind
      · exact hviolation
      · exact hviolation
  · rintro ⟨c, hobj, rfl⟩
    rcases step with x | symbol | name
    · simp [Step.meaning, Replay.missing?, Replay.violation?] at hobj
    · cases hknown : table.find? symbol with
      | none => simp [Step.meaning, hknown, Replay.missing?, Replay.violation?] at hobj
      | some operation =>
        obtain ⟨text, rfl, hfound⟩ := Table.find?_eq_some_iff.mp hknown
        rw [Step.meaning_of_get? hfound] at hobj
        rcases hobj with ⟨hmode, hmissing⟩ | ⟨hmode, hviolation⟩
        · obtain ⟨hkind, hacc, rfl⟩ := missing?_meaning_eq_some_iff.mp hmissing
          exact .missing hmode hfound hkind hacc
        · rcases operation with x | f | f | _ | draw
          · simp [Operation.meaning, Replay.violation?] at hviolation
          · obtain ⟨x, reason, hacc, hreject, rfl⟩ :=
              violation?_unary_eq_some_iff.mp hviolation
            exact .unary hmode hfound hacc hreject
          · obtain ⟨p, y, reason, hacc, hpending, hreject, rfl⟩ :=
              bind_violation?_eq_some_iff.mp hviolation
            exact .resolve hmode hfound (Or.inl rfl) hacc hpending hreject
          · obtain ⟨p, y, reason, hacc, hpending, hreject, rfl⟩ :=
              bind_violation?_eq_some_iff.mp hviolation
            exact .resolve hmode hfound (Or.inr rfl) hacc hpending hreject
          · simp [Operation.meaning, Replay.violation?] at hviolation
    · simp [Step.meaning, Replay.missing?, Replay.violation?] at hobj

/-- A value that is no step fails with its type, and with nothing else. -/
lemma failure_foreign_iff {mode : Mode} {s : Replay} {typeName : String} {e : EntryError} :
    Failure table mode s (.foreign typeName) e ↔ e = .foreign typeName := by
  constructor
  · rintro ⟨⟩
    rfl
  · rintro rfl
    exact .foreign typeName

/-! ### Places of failures -/

/-- No place of an empty list fails. -/
lemma not_failsAt_nil {mode : Mode} {s : Replay} {source : σ} {i : Nat} {e : EntryError} :
    ¬ FailsAt table bindings mode s [] source i e := by
  rintro ⟨front, entry, rest, h, -, -⟩
  simp at h

/-- The first entry fails in the state at the start. -/
lemma failsAt_zero_iff {mode : Mode} {s : Replay} {entry : Entry} {rest : List Entry} {source : σ}
    {e : EntryError} :
    FailsAt table bindings mode s (entry :: rest) source 0 e ↔ Failure table mode s entry e := by
  constructor
  · rintro ⟨front, entry', rest', h, hlength, hfailure⟩
    obtain rfl := List.length_eq_zero_iff.mp hlength
    obtain ⟨rfl, rfl⟩ : entry = entry' ∧ rest = rest' := by simpa using h
    exact hfailure
  · intro h
    exact ⟨[], entry, rest, rfl, rfl, h⟩

/-- A later entry fails in the state that the steps in front of it build, the first step before the
others. -/
lemma failsAt_succ_iff {mode : Mode} {s : Replay} {entry : Entry} {rest : List Entry} {source : σ}
    {i : Nat} {e : EntryError} :
    FailsAt table bindings mode s (entry :: rest) source (i + 1) e ↔
      ∃ step, entry = .step step ∧
        FailsAt table bindings mode (s.after (step.meaning table bindings source).1) rest
          (step.meaning table bindings source).2 i e := by
  constructor
  · rintro ⟨_ | ⟨step, front⟩, entry', rest', h, hlength, hfailure⟩
    · simp at hlength
    · obtain ⟨rfl, rfl⟩ : entry = .step step ∧ rest = front.map .step ++ entry' :: rest' := by
        simpa using h
      exact ⟨step, rfl, front, entry', rest', rfl, by simpa using hlength, hfailure⟩
  · rintro ⟨step, rfl, front, entry', rest', rfl, hlength, hfailure⟩
    exact ⟨step :: front, entry', rest', by simp, by simp [hlength], hfailure⟩

/-- If the first entry fails, then the list fails first with its error. -/
lemma failsFirst_cons_of_failure {mode : Mode} {s : Replay} {entry : Entry} {rest : List Entry}
    {source : σ} {c e : EntryError} (hc : ∀ e', Failure table mode s entry e' ↔ e' = c) :
    FailsFirst table bindings mode s (entry :: rest) source e ↔ c = e := by
  constructor
  · rintro ⟨_ | i, hfails, hleast⟩
    · exact ((hc e).mp (failsAt_zero_iff.mp hfails)).symm
    · exact absurd (failsAt_zero_iff.mpr ((hc c).mpr rfl)) (hleast 0 (Nat.succ_pos i) c)
  · rintro rfl
    exact ⟨0, failsAt_zero_iff.mpr ((hc c).mpr rfl), fun j hj => absurd hj (Nat.not_lt_zero j)⟩

/-- If the first entry is a step that does not fail, then the list fails first where the rest does,
in the state that the step builds. -/
lemma failsFirst_cons_of_not_failure {mode : Mode} {s : Replay} {step : Step} {rest : List Entry}
    {source : σ} {e : EntryError} (h : ∀ e', ¬ Failure table mode s (.step step) e') :
    FailsFirst table bindings mode s (.step step :: rest) source e ↔
      FailsFirst table bindings mode (s.after (step.meaning table bindings source).1) rest
        (step.meaning table bindings source).2 e := by
  have hsucc : ∀ i e', FailsAt table bindings mode s (.step step :: rest) source (i + 1) e' ↔
      FailsAt table bindings mode (s.after (step.meaning table bindings source).1) rest
        (step.meaning table bindings source).2 i e' := by
    intro i e'
    rw [failsAt_succ_iff]
    constructor
    · rintro ⟨step', hstep, hfails⟩
      cases hstep
      exact hfails
    · intro hfails
      exact ⟨step, rfl, hfails⟩
  constructor
  · rintro ⟨_ | i, hfails, hleast⟩
    · exact absurd (failsAt_zero_iff.mp hfails) (h e)
    · refine ⟨i, (hsucc i e).mp hfails, fun j hj e' hfails' => ?_⟩
      exact hleast (j + 1) (Nat.succ_lt_succ hj) e' ((hsucc j e').mpr hfails')
  · rintro ⟨i, hfails, hleast⟩
    refine ⟨i + 1, (hsucc i e).mpr hfails, fun j hj e' hfails' => ?_⟩
    rcases j with _ | j
    · exact h e' (failsAt_zero_iff.mp hfails')
    · exact hleast j (Nat.lt_of_succ_lt_succ hj) e' ((hsucc j e').mp hfails')

/-! ### The first error -/

/-- The error at which the evaluation of a list stops, when it goes on from the state `s`. -/
def firstError? (table : Table σ) (bindings : Bindings) (mode : Mode) :
    Replay → List Entry → σ → Option EntryError
  | _, [], _ => none
  | _, .foreign typeName :: _, _ => some (.foreign typeName)
  | s, .step step :: rest, source =>
    match s.objection? mode (step.meaning table bindings source).1 with
    | some c => some (.calculation c)
    | none =>
      firstError? table bindings mode (s.after (step.meaning table bindings source).1) rest
        (step.meaning table bindings source).2

/-- The first error is that of the steps in front of the first value that is none, or else of that
value. -/
lemma firstError?_eq (mode : Mode) (s : Replay) (entries : List Entry) (source : σ) :
    firstError? table bindings mode s entries source =
      match (Replay.runIn table bindings mode s (Entry.leadingSteps entries).1 source).1 with
      | .error c => some (.calculation c)
      | .ok _ => (Entry.leadingSteps entries).2.map .foreign := by
  induction entries generalizing s source with
  | nil => rfl
  | cons entry rest ih =>
    rcases entry with step | typeName
    · simp only [firstError?, Entry.leadingSteps, Replay.runIn_cons]
      cases s.objection? mode (step.meaning table bindings source).1 with
      | some c => rfl
      | none => exact ih _ _
    · rfl

/-- An evaluation raises the first error of its replay from the start, if there is one. -/
lemma evaluateEntriesIn_eq_error_iff {mode : Mode} {entries : List Entry} {source : σ}
    {e : EntryError} :
    (evaluateEntriesIn table bindings mode entries source).1 = .error e ↔
      firstError? table bindings mode .start entries source = some e := by
  rw [firstError?_eq]
  simp only [evaluateEntriesIn, evaluateIn]
  rcases Replay.runIn table bindings mode .start (Entry.leadingSteps entries).1 source with
    ⟨c | t, source'⟩
  · simp [Except.map]
  · cases (Entry.leadingSteps entries).2 <;> simp [Except.map]

/-- The first error is the error at the foremost place that fails. -/
lemma firstError?_eq_some_iff {mode : Mode} {s : Replay} {entries : List Entry} {source : σ}
    {e : EntryError} :
    firstError? table bindings mode s entries source = some e ↔
      FailsFirst table bindings mode s entries source e := by
  induction entries generalizing s source with
  | nil => simp [firstError?, FailsFirst, not_failsAt_nil]
  | cons entry rest ih =>
    rcases entry with step | typeName
    · have hstep : ∀ e', Failure table mode s (.step step) e' ↔
          ∃ c, s.objection? mode (step.meaning table bindings source).1 = some c ∧
            e' = .calculation c :=
        fun e' => failure_step_iff bindings source
      cases hobj : s.objection? mode (step.meaning table bindings source).1 with
      | some c =>
        rw [failsFirst_cons_of_failure (c := .calculation c)]
        · simp [firstError?, hobj]
        · intro e'
          rw [hstep e', hobj]
          simp
      | none =>
        rw [failsFirst_cons_of_not_failure]
        · simp only [firstError?, hobj]
          exact ih
        · intro e'
          rw [hstep e', hobj]
          simp
    · rw [failsFirst_cons_of_failure fun e' => failure_foreign_iff]
      simp [firstError?]

/-- An evaluation raises an error exactly if some place of its list fails, and the error is then the
one of the least such place. -/
theorem evaluateEntriesIn_eq_error_iff_isLeast (mode : Mode) (entries : List Entry) (source : σ) :
    ((∃ e, (evaluateEntriesIn table bindings mode entries source).1 = .error e) ↔
        (failingPlaces table bindings mode entries source).Nonempty) ∧
      ∀ e, (evaluateEntriesIn table bindings mode entries source).1 = .error e ↔
        ∃ i, IsLeast (failingPlaces table bindings mode entries source) i ∧
          FailsAt table bindings mode .start entries source i e := by
  have hlaw : ∀ e, (evaluateEntriesIn table bindings mode entries source).1 = .error e ↔
      ∃ i, IsLeast (failingPlaces table bindings mode entries source) i ∧
        FailsAt table bindings mode .start entries source i e := by
    intro e
    rw [evaluateEntriesIn_eq_error_iff, firstError?_eq_some_iff]
    constructor
    · rintro ⟨i, hfails, hleast⟩
      refine ⟨i, ⟨⟨e, hfails⟩, ?_⟩, hfails⟩
      rintro j ⟨e', hfails'⟩
      exact Nat.le_of_not_lt fun hj => hleast j hj e' hfails'
    · rintro ⟨i, ⟨-, hleast⟩, hfails⟩
      exact ⟨i, hfails, fun j hj e' hfails' => Nat.not_lt.mpr (hleast ⟨e', hfails'⟩) hj⟩
  refine ⟨?_, hlaw⟩
  constructor
  · rintro ⟨e, he⟩
    obtain ⟨i, hi, -⟩ := (hlaw e).mp he
    exact ⟨i, hi.1⟩
  · intro hne
    obtain ⟨i, ⟨e, hfails⟩, hmin⟩ := wellFounded_lt.has_min _ hne
    exact ⟨e, (hlaw e).mpr ⟨i, ⟨⟨e, hfails⟩, fun j hj => Nat.le_of_not_lt (hmin j hj)⟩, hfails⟩⟩

end ReplayCalculator
