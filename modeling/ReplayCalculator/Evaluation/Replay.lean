import ReplayCalculator.Evaluation.Error
import ReplayCalculator.Operation.Table
import ReplayCalculator.Step.Basic

/-!
# Replaying steps

A calculation is computed by replaying its steps from the first to the last. Each step is first
given its *meaning*, which looks up symbols and variables and makes the draw of a custom operation.
The state of the replay then changes by the meaning alone:

* `Replay.after` is the state after a meaning. It always exists: an operation without an operand is
  passed over, and a number stands in for the value of a function that fails.
* `Replay.violation?` and `Replay.missing?` are what there is to object to a meaning: operands that
  an operation does not accept, or an operand that is not there.

A replay in one of three modes follows `after` and stops where the mode objects.

* `run_append`, `runIn_append`: a replay of two rows of steps is the one replay after the other.
* `runIn_lenient`: the lenient mode never stops.
-/

namespace ReplayCalculator

/-- The values of variables. -/
abbrev Bindings := OrderedMap String Float

/-- The value of a variable; unbound variables are zero. -/
def Bindings.value (bindings : Bindings) (name : String) : Float := (bindings.get? name).getD 0

/-! ### Meanings -/

/-- What a step means in a replay. -/
inductive Meaning
  | number (x : Float)
  | variable (name : String) (x : Float)
  | constant (x : Float)
  | unary (symbol : String) (f : Unary)
  | binary (symbol : String) (f : Binary)
  | equals (symbol : String)
  | drawn (x : Float)
  | unknown

/-- The meaning of a symbol, given its operation. Only a custom operation uses the source. -/
def Operation.meaning {σ : Type} (symbol : String) : Operation σ → σ → Meaning × σ
  | .constant x, source => (.constant x, source)
  | .unary f, source => (.unary symbol f, source)
  | .binary f, source => (.binary symbol f, source)
  | .equals, source => (.equals symbol, source)
  | .custom draw, source => (.drawn (draw source).1, (draw source).2)

/-- The meaning of a step under a table and bindings. -/
def Step.meaning {σ : Type} (table : Table σ) (bindings : Bindings) : Step → σ → Meaning × σ
  | .number x, source => (.number x, source)
  | .variable name, source => (.variable name (bindings.value name), source)
  | .operation symbol, source =>
    match table.find? symbol with
    | none => (.unknown, source)
    | some found => found.meaning symbol.text source

/-- The meaning of a symbol of the table. -/
theorem Step.meaning_of_get? {σ : Type} {table : Table σ} {symbol : String} {found : Operation σ}
    (h : table.get? symbol = some found) (bindings : Bindings) (source : σ) :
    (Step.operation symbol).meaning table bindings source = found.meaning symbol source := by
  simp only [Step.meaning, Table.find?_plain, h]
  rfl

/-! ### States -/

/-- A binary operation that waits for its second operand. -/
structure Pending where
  symbol : String
  function : Binary
  first : Float

/-- The result once the second operand is there. -/
def Pending.resolve (p : Pending) (second : Float) : Float := p.function.value p.first second

/-- The error if the operation does not accept its operands. -/
def Pending.violation? (p : Pending) (second : Float) : Option CalculationError :=
  (p.function.violation? p.first second).map
    (CalculationError.violation p.symbol [p.first, second])

/-- What the replay met last: a symbol of some kind or a variable. Numbers leave no mark. -/
inductive Mark
  | operation (kind : Kind)
  | variable
  deriving DecidableEq, Repr

/-- The state of a replay. -/
structure Replay where
  accumulator : Option Float := none
  pending : Option Pending := none
  last : Option Mark := none
  description : String := ""

namespace Replay

/-- The state before the first step. -/
def start : Replay := {}

/-- The description with a new operand: behind the operation that waits for it, or all by itself. -/
def describe (s : Replay) (text : String) : String :=
  if s.pending.isSome then s.description ++ text else text

/-- The state with an operand and its text. -/
def operand (s : Replay) (x : Float) (text : String) (mark : Mark) : Replay :=
  { s with accumulator := some x, description := s.describe text, last := some mark }

/-- The state after an operation of one operand. Its text encloses the description, or only the
operand while another operation waits. -/
def applyUnary (s : Replay) (symbol : String) (f : Unary) (x : Float) : Replay :=
  { s with
    accumulator := some (f.value x)
    description :=
      if s.pending.isSome then s.description ++ symbol ++ "(" ++ Number.shown x ++ ")"
      else symbol ++ "(" ++ s.description ++ ")"
    last := some (.operation .unary) }

/-- The state after an operation of two operands, whose first operand is there. An operation that
waits is resolved first, and its result stays as the operand that is used if no other follows. -/
def applyBinary (s : Replay) (symbol : String) (f : Binary) (x : Float) : Replay :=
  match s.pending with
  | none =>
    { accumulator := none
      pending := some ⟨symbol, f, x⟩
      last := some (.operation .binary)
      description := s.description ++ symbol }
  | some p =>
    { accumulator := some (p.resolve x)
      pending := some ⟨symbol, f, p.resolve x⟩
      last := some (.operation .binary)
      description :=
        s.description ++ (if s.last = some .variable then "" else Number.shown x) ++ symbol }

/-- The state after an equals symbol: nothing waits any more. -/
def applyEquals (s : Replay) (x : Float) : Replay :=
  { accumulator := some (s.pending.elim x (·.resolve x))
    pending := none
    last := some (.operation .equals)
    description :=
      if s.last = some (.operation .binary) then s.description ++ Number.shown x
      else s.description }

/-- The state after a meaning. A number that follows a binary symbol is not written yet: the symbol
that uses it will write it. -/
def after (s : Replay) : Meaning → Replay
  | .number x =>
    { s with
      accumulator := some x
      description :=
        if s.last = some (.operation .binary) then s.description
        else s.describe (Number.shown x) }
  | .variable name x => s.operand x name .variable
  | .constant x => s.operand x (Number.shown x) (.operation .constant)
  | .drawn x => s.operand x (Number.shown x) (.operation .custom)
  | .unary symbol f => s.accumulator.elim s (s.applyUnary symbol f)
  | .binary symbol f => s.accumulator.elim s (s.applyBinary symbol f)
  | .equals _ => s.accumulator.elim s s.applyEquals
  | .unknown => s

/-! ### Objections -/

/-- The error of an operation that finds no operand in this state. -/
def missing? (s : Replay) : Meaning → Option CalculationError
  | .unary symbol _ | .binary symbol _ | .equals symbol =>
    if s.accumulator.isNone then some (.missingOperand symbol) else none
  | _ => none

/-- The error of an operation whose operands in this state are not acceptable. Binary and equals
symbols apply the operation that waits, not one of their own. -/
def violation? (s : Replay) : Meaning → Option CalculationError
  | .unary symbol f =>
    s.accumulator.bind fun x => (f.violation? x).map (.violation symbol [x])
  | .binary _ _ | .equals _ =>
    s.accumulator.bind fun y => s.pending.bind (·.violation? y)
  | _ => none

end Replay

/-- How strict an evaluation is: lenient evaluations never fail, tolerant ones fail at operands that
are not acceptable, and strict ones also at operands that are missing. -/
inductive Mode
  | lenient
  | tolerant
  | strict
  deriving DecidableEq, Repr

namespace Replay

/-- The error at which the mode stops. -/
def objection? (mode : Mode) (s : Replay) (m : Meaning) : Option CalculationError :=
  match mode with
  | .lenient => none
  | .tolerant => s.violation? m
  | .strict => (s.missing? m).or (s.violation? m)

/-! ### Runs -/

variable {σ : Type} (table : Table σ) (bindings : Bindings)

/-- The state after some steps, and the source after their draws. -/
def run : Replay → List Step → σ → Replay × σ
  | s, [], source => (s, source)
  | s, step :: rest, source =>
    let (m, source) := step.meaning table bindings source
    run (s.after m) rest source

/-- The state after some steps unless the mode objects to one of them; the source is that of the
step at which the run stops. -/
def runIn (mode : Mode) : Replay → List Step → σ → Except CalculationError Replay × σ
  | s, [], source => (.ok s, source)
  | s, step :: rest, source =>
    let (m, source) := step.meaning table bindings source
    match s.objection? mode m with
    | some e => (.error e, source)
    | none => runIn mode (s.after m) rest source

@[simp] theorem run_nil (s : Replay) (source : σ) : run table bindings s [] source = (s, source) :=
  rfl

theorem run_cons (s : Replay) (step : Step) (rest : List Step) (source : σ) :
    run table bindings s (step :: rest) source =
      run table bindings (s.after (step.meaning table bindings source).1) rest
        (step.meaning table bindings source).2 := rfl

theorem run_append (s : Replay) (xs ys : List Step) (source : σ) :
    run table bindings s (xs ++ ys) source =
      run table bindings (run table bindings s xs source).1 ys
        (run table bindings s xs source).2 := by
  induction xs generalizing s source with
  | nil => rfl
  | cons x xs ih => exact ih _ _

@[simp] theorem runIn_nil (mode : Mode) (s : Replay) (source : σ) :
    runIn table bindings mode s [] source = (.ok s, source) := rfl

theorem runIn_cons (mode : Mode) (s : Replay) (step : Step) (rest : List Step) (source : σ) :
    runIn table bindings mode s (step :: rest) source =
      match s.objection? mode (step.meaning table bindings source).1 with
      | some e => (.error e, (step.meaning table bindings source).2)
      | none =>
        runIn table bindings mode (s.after (step.meaning table bindings source).1) rest
          (step.meaning table bindings source).2 := rfl

theorem runIn_append (mode : Mode) (s : Replay) (xs ys : List Step) (source : σ) :
    runIn table bindings mode s (xs ++ ys) source =
      match runIn table bindings mode s xs source with
      | (.error e, source) => (.error e, source)
      | (.ok s, source) => runIn table bindings mode s ys source := by
  induction xs generalizing s source with
  | nil => rfl
  | cons x xs ih =>
    rw [List.cons_append, runIn_cons, runIn_cons]
    cases s.objection? mode (x.meaning table bindings source).1 with
    | some e => rfl
    | none => exact ih _ _

theorem runIn_lenient (s : Replay) (steps : List Step) (source : σ) :
    runIn table bindings .lenient s steps source =
      (.ok (run table bindings s steps source).1, (run table bindings s steps source).2) := by
  induction steps generalizing s source with
  | nil => rfl
  | cons x xs ih => exact ih _ _

end Replay

end ReplayCalculator
