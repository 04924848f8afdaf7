import ReplayCalculator.Proofs.Evaluation.Taxonomy
import ReplayCalculator.Proofs.Operation.Library

/-!
# Replays that stay finite

A replay has numbers in two places, the accumulator and the first operand of an operation that
waits. If both are finite, then a step leaves the finite numbers only where an operation accepts
finite operands and gives an infinite result. `Replay.overflow?` detects this, and names the symbol
of the operation, which may have been met long before. `Replay.overflowIn?` looks for it in a whole
tolerant replay.

In a table that is confined to the finite numbers apart from some symbols, the overflows are at
these symbols (`mem_doors_of_overflowIn?`), and a replay without one ends in a finite state
(`IsFinite.runIn`).
-/

namespace ReplayCalculator

open Binary64

/-- The values of variables are finite. -/
def Bindings.IsFinite (bindings : Bindings) : Prop := ∀ name, (bindings.value name).isFinite = true

namespace Replay

/-! ### Overflows -/

/-- The numbers of the state are finite. -/
structure IsFinite (s : Replay) : Prop where
  accumulator : ∀ x, s.accumulator = some x → x.isFinite = true
  first : ∀ p, s.pending = some p → p.first.isFinite = true

/-- The symbol of the operation that takes finite operands to an infinite result, if there is
one. -/
def overflow? (s : Replay) : Meaning → Option String
  | .unary symbol f =>
    s.accumulator.bind fun x => if x.isFinite && (f.value x).isInf then some symbol else none
  | .binary _ _ | .equals _ =>
    s.accumulator.bind fun y => s.pending.bind fun p =>
      if p.first.isFinite && y.isFinite && (p.resolve y).isInf then some p.symbol else none
  | _ => none

variable {σ : Type} (table : Table σ) (bindings : Bindings)

/-- The symbol of the first operation that overflows in a tolerant replay, up to where the replay
stops. -/
def overflowIn? : Replay → List Step → σ → Option String
  | _, [], _ => none
  | s, step :: rest, source =>
    match s.violation? (step.meaning table bindings source).1 with
    | some _ => none
    | none =>
      (s.overflow? (step.meaning table bindings source).1).or
        (overflowIn? (s.after (step.meaning table bindings source).1) rest
          (step.meaning table bindings source).2)

variable {table bindings} {doors : List String}

/-- An infinite number is not finite. -/
lemma not_isFinite_of_isInf {x : Float} (h : x.isInf = true) : ¬ x.isFinite = true := by
  rw [isFinite_iff, isInfinite_iff.mp (isInf_iff.mp h)]
  exact Nat.lt_irrefl _

/-- An overflow of an operation of one operand. -/
lemma overflow?_unary_eq_some_iff {s : Replay} {symbol key : String} {f : Unary} :
    s.overflow? (.unary symbol f) = some key ↔
      ∃ x, s.accumulator = some x ∧ x.isFinite = true ∧ (f.value x).isInf = true ∧
        symbol = key := by
  simp only [overflow?, Option.bind_eq_some_iff, Option.ite_none_right_eq_some, Bool.and_eq_true,
    Option.some.injEq, and_assoc]

/-- An overflow of the operation that waits. -/
lemma overflow?_equals_eq_some_iff {s : Replay} {symbol key : String} :
    s.overflow? (.equals symbol) = some key ↔
      ∃ y p, s.accumulator = some y ∧ s.pending = some p ∧ p.first.isFinite = true ∧
        y.isFinite = true ∧ (p.resolve y).isInf = true ∧ p.symbol = key := by
  simp only [overflow?, Option.bind_eq_some_iff, Option.ite_none_right_eq_some, Bool.and_eq_true,
    Option.some.injEq, and_assoc]
  constructor
  · rintro ⟨y, hy, p, hp, h⟩
    exact ⟨y, p, hy, hp, h⟩
  · rintro ⟨y, p, hy, hp, h⟩
    exact ⟨y, hy, p, hp, h⟩

/-- A finite number in the accumulator, whatever else is written, leaves a finite state finite. -/
lemma IsFinite.of_accumulator {s t : Replay} (hs : s.IsFinite) {x : Float} (hx : x.isFinite = true)
    (hacc : t.accumulator = some x) (hpending : t.pending = s.pending) : t.IsFinite := by
  refine ⟨fun y hy => ?_, fun p hp => hs.first p (hpending ▸ hp)⟩
  rw [hacc] at hy
  cases hy
  exact hx

/-! ### Accepted operands -/

section Accepted

variable {s : Replay} {symbol : String} (hconfined : table.Confined doors)
include hconfined

/-- The result of an operation of one operand that is accepted. -/
lemma isFinite_value_or {f : Unary} {x : Float} (hfound : table.get? symbol = some (.unary f))
    (hacc : s.accumulator = some x) (hx : x.isFinite = true)
    (haccept : s.violation? (.unary symbol f) = none) :
    (f.value x).isFinite = true ∨ symbol ∈ doors ∧ IsInfinite (f.value x) := by
  refine hconfined.unary hfound hx ?_
  simpa only [violation?, hacc, Option.bind_some, Option.map_eq_none_iff] using haccept

/-- The result of the operation that waits, if its operands are accepted. -/
lemma isFinite_resolve_or {p : Pending} {y : Float} (hregistered : Registered table s)
    (hacc : s.accumulator = some y) (hpending : s.pending = some p)
    (hfirst : p.first.isFinite = true) (hy : y.isFinite = true)
    (haccept : s.violation? (.equals symbol) = none) :
    (p.resolve y).isFinite = true ∨ p.symbol ∈ doors ∧ IsInfinite (p.resolve y) := by
  refine hconfined.binary (hregistered p hpending) hfirst hy ?_
  simpa only [violation?, hacc, hpending, Option.bind_some, Pending.violation?,
    Option.map_eq_none_iff] using haccept

/-- Where operands are accepted, only the operations that are excepted overflow. -/
lemma mem_doors_of_overflow? {step : Step} {source : σ} {key : String}
    (hregistered : Registered table s)
    (haccept : s.violation? (step.meaning table bindings source).1 = none)
    (hoverflow : s.overflow? (step.meaning table bindings source).1 = some key) : key ∈ doors := by
  have hresolve : ∀ symbol, s.violation? (.equals symbol) = none →
      s.overflow? (.equals symbol) = some key → key ∈ doors := by
    intro symbol haccept hoverflow
    obtain ⟨y, p, hacc, hpending, hfirst, hy, hinf, rfl⟩ :=
      overflow?_equals_eq_some_iff.mp hoverflow
    rcases isFinite_resolve_or hconfined hregistered hacc hpending hfirst hy haccept with
      hfinite | ⟨hmem, -⟩
    · exact absurd hfinite (not_isFinite_of_isInf hinf)
    · exact hmem
  rcases meaning_cases table bindings step source with
    ⟨x, -, hm⟩ | ⟨name, hm⟩ | hm | ⟨symbol, operation, hfound, hm⟩ <;> rw [hm] at haccept hoverflow
  · cases hoverflow
  · cases hoverflow
  · cases hoverflow
  · rcases operation with x | f | f | _ | draw
    · cases hoverflow
    · obtain ⟨x, hacc, hx, hinf, rfl⟩ := overflow?_unary_eq_some_iff.mp hoverflow
      rcases isFinite_value_or hconfined hfound hacc hx haccept with hfinite | ⟨hmem, -⟩
      · exact absurd hfinite (not_isFinite_of_isInf hinf)
      · exact hmem
    · exact hresolve symbol haccept hoverflow
    · exact hresolve symbol haccept hoverflow
    · cases hoverflow

/-- The result of an operation of one operand that is accepted and does not overflow. -/
lemma isFinite_value {f : Unary} {x : Float} (hfound : table.get? symbol = some (.unary f))
    (hacc : s.accumulator = some x) (hx : x.isFinite = true)
    (haccept : s.violation? (.unary symbol f) = none)
    (hoverflow : s.overflow? (.unary symbol f) = none) : (f.value x).isFinite = true := by
  refine (isFinite_value_or hconfined hfound hacc hx haccept).resolve_right fun ⟨_, hinfinite⟩ => ?_
  have hsome : s.overflow? (.unary symbol f) = some symbol :=
    overflow?_unary_eq_some_iff.mpr ⟨x, hacc, hx, isInf_iff.mpr hinfinite, rfl⟩
  rw [hoverflow] at hsome
  cases hsome

/-- The result of the operation that waits, if its operands are accepted and it does not
overflow. -/
lemma isFinite_resolve {p : Pending} {y : Float} (hs : s.IsFinite)
    (hregistered : Registered table s) (hacc : s.accumulator = some y)
    (hpending : s.pending = some p) (haccept : s.violation? (.equals symbol) = none)
    (hoverflow : s.overflow? (.equals symbol) = none) : (p.resolve y).isFinite = true := by
  have hfirst := hs.first p hpending
  have hy := hs.accumulator y hacc
  refine (isFinite_resolve_or hconfined hregistered hacc hpending hfirst hy haccept).resolve_right
    fun ⟨_, hinfinite⟩ => ?_
  have hsome : s.overflow? (.equals symbol) = some p.symbol := overflow?_equals_eq_some_iff.mpr
    ⟨y, p, hacc, hpending, hfirst, hy, isInf_iff.mpr hinfinite, rfl⟩
  rw [hoverflow] at hsome
  cases hsome

/-- A binary symbol leaves a finite state finite: its first operand is the accumulator, or the
result of the operation that waited. -/
lemma IsFinite.applyBinary (hs : s.IsFinite) (hregistered : Registered table s) {x : Float}
    (hacc : s.accumulator = some x) (f : Binary) (haccept : s.violation? (.equals symbol) = none)
    (hoverflow : s.overflow? (.equals symbol) = none) : (s.applyBinary symbol f x).IsFinite := by
  rcases hpending : s.pending with _ | p <;> simp only [Replay.applyBinary, hpending]
  · refine ⟨fun y hy => (by cases hy), fun q hq => ?_⟩
    cases hq
    exact hs.accumulator x hacc
  · have hresolve := isFinite_resolve hconfined hs hregistered hacc hpending haccept hoverflow
    refine ⟨fun y hy => ?_, fun q hq => ?_⟩
    · cases hy
      exact hresolve
    · cases hq
      exact hresolve

/-- An equals symbol leaves a finite state finite. -/
lemma IsFinite.applyEquals (hs : s.IsFinite) (hregistered : Registered table s) {x : Float}
    (hacc : s.accumulator = some x) (haccept : s.violation? (.equals symbol) = none)
    (hoverflow : s.overflow? (.equals symbol) = none) : (s.applyEquals x).IsFinite := by
  refine ⟨fun y hy => ?_, fun q hq => (by cases hq)⟩
  rcases hpending : s.pending with _ | p <;>
    simp only [Replay.applyEquals, hpending, Option.elim] at hy <;> cases hy
  · exact hs.accumulator x hacc
  · exact isFinite_resolve hconfined hs hregistered hacc hpending haccept hoverflow

/-- A step whose operands are accepted and that does not overflow leaves a finite state finite. -/
lemma IsFinite.after (hs : s.IsFinite) (hregistered : Registered table s)
    (hbindings : bindings.IsFinite) {step : Step} {source : σ}
    (hstep : ∀ x, step = .number x → x.isFinite = true)
    (haccept : s.violation? (step.meaning table bindings source).1 = none)
    (hoverflow : s.overflow? (step.meaning table bindings source).1 = none) :
    (s.after (step.meaning table bindings source).1).IsFinite := by
  rcases meaning_cases table bindings step source with
    ⟨x, hx, hm⟩ | ⟨name, hm⟩ | hm | ⟨symbol, operation, hfound, hm⟩ <;>
      rw [hm] at haccept hoverflow ⊢
  · exact hs.of_accumulator (hstep x hx) rfl rfl
  · exact hs.of_accumulator (hbindings name) rfl rfl
  · exact hs
  · rcases operation with x | f | f | _ | draw
    · exact hs.of_accumulator (hconfined.constant hfound) rfl rfl
    · rcases hacc : s.accumulator with _ | x <;>
        simp only [Operation.meaning, Replay.after, hacc, Option.elim]
      · exact hs
      · have hvalue :=
          isFinite_value hconfined hfound hacc (hs.accumulator x hacc) haccept hoverflow
        exact hs.of_accumulator hvalue rfl rfl
    · rcases hacc : s.accumulator with _ | x <;>
        simp only [Operation.meaning, Replay.after, hacc, Option.elim]
      · exact hs
      · exact hs.applyBinary hconfined hregistered hacc f haccept hoverflow
    · rcases hacc : s.accumulator with _ | x <;>
        simp only [Operation.meaning, Replay.after, hacc, Option.elim]
      · exact hs
      · exact hs.applyEquals hconfined hregistered hacc haccept hoverflow
    · exact hs.of_accumulator (hconfined.custom hfound source) rfl rfl

/-! ### Runs -/

/-- The overflows of a tolerant replay are at the symbols that are excepted. -/
theorem mem_doors_of_overflowIn? {steps : List Step} {source : σ} {key : String}
    (hregistered : Registered table s)
    (hoverflow : overflowIn? table bindings s steps source = some key) : key ∈ doors := by
  induction steps generalizing s source with
  | nil => cases hoverflow
  | cons step rest ih =>
    rw [overflowIn?] at hoverflow
    rcases haccept : s.violation? (step.meaning table bindings source).1 with _ | e
    · rw [haccept] at hoverflow
      rcases Option.or_eq_some_iff.mp hoverflow with hfirst | ⟨-, hlater⟩
      · exact mem_doors_of_overflow? hconfined hregistered haccept hfirst
      · exact ih (hregistered.after step source) hlater
    · rw [haccept] at hoverflow
      cases hoverflow

/-- A tolerant replay of finite numbers without an overflow ends in a finite state, if it does not
stop. -/
theorem IsFinite.runIn {steps : List Step} {source source' : σ} {t : Replay} (hs : s.IsFinite)
    (hregistered : Registered table s) (hbindings : bindings.IsFinite)
    (hsteps : ∀ x, .number x ∈ steps → x.isFinite = true)
    (hoverflow : overflowIn? table bindings s steps source = none)
    (hrun : Replay.runIn table bindings .tolerant s steps source = (.ok t, source')) :
    t.IsFinite := by
  induction steps generalizing s source with
  | nil =>
    cases hrun
    exact hs
  | cons step rest ih =>
    rw [overflowIn?] at hoverflow
    rw [runIn_cons, objection?] at hrun
    rcases haccept : s.violation? (step.meaning table bindings source).1 with _ | e
    · rw [haccept] at hoverflow hrun
      obtain ⟨hfirst, hlater⟩ := Option.or_eq_none_iff.mp hoverflow
      have hstep : ∀ x, step = .number x → x.isFinite = true :=
        fun x hx => hsteps x (hx ▸ List.mem_cons_self)
      refine ih (hs.after hconfined hregistered hbindings hstep haccept hfirst)
        (hregistered.after step source) (fun x hx => hsteps x (List.mem_cons_of_mem step hx))
          hlater hrun
    · rw [haccept] at hrun
      cases hrun

end Accepted

end Replay

end ReplayCalculator
