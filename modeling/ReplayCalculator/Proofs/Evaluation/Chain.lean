import Mathlib.Tactic.Lemma
import ReplayCalculator.Evaluation.Basic
import ReplayCalculator.Operation.Feed

/-!
# Chains of operations

A chain is what a person enters who calculates from left to right: operands, each with the keys of
one operand that are pressed behind it, and binary symbols between them. Its value is the left fold
of the binary operations, since there is no precedence (`total`). Its description is less regular,
for what a step writes depends on what was met before it. The first operand is enclosed by its keys
(`enclosed`). Behind a binary symbol

* a number is written by the step that uses it, unless that is a key of one operand, which writes
  the operand between its own parentheses;
* a variable is written by itself, and so is the value of a constant or of a custom symbol;
* the value of an operand that is no plain number or variable is written once more in front of the
  next binary symbol (`Reading.again`).

`Reading.text` puts these together, and `evaluate_chain` says that the lenient evaluation of a chain
of any length and an equals symbol has this value and this description. Chains of plain numbers and
variables are therefore described in plain infix form.
-/

namespace ReplayCalculator

variable {σ : Type}

/-! ### Terms and chains -/

/-- A symbol of the table that stands for an operation of one operand. -/
structure UnaryKey (table : Table σ) where
  symbol : String
  function : Unary
  found : table.get? symbol = some (.unary function)

/-- A symbol of the table that stands for an operation of two operands. -/
structure BinaryKey (table : Table σ) where
  symbol : String
  function : Binary
  found : table.get? symbol = some (.binary function)

/-- A symbol of the table that stands for equality. -/
structure EqualsKey (table : Table σ) where
  symbol : String
  found : table.get? symbol = some .equals

/-- The four ways to enter an operand. -/
inductive Operand (table : Table σ)
  | number (x : Float)
  | variable (name : String)
  | constant (symbol : String) (x : Float) (found : table.get? symbol = some (.constant x))
  | custom (symbol : String) (draw : σ → Float × σ)
      (found : table.get? symbol = some (.custom draw))

/-- An operand and the keys of one operand behind it. -/
structure Term (table : Table σ) where
  operand : Operand table
  keys : List (UnaryKey table)

/-- A term, and further ones with a binary symbol in front of each. -/
structure Chain (table : Table σ) where
  first : Term table
  links : List (BinaryKey table × Term table)

variable {table : Table σ}

/-- The step that enters the operand. -/
def Operand.step : Operand table → Step
  | number x => .number x
  | .variable name => .variable name
  | constant symbol _ _ => .operation symbol
  | custom symbol _ _ => .operation symbol

/-- The steps that enter the term. -/
def Term.steps (term : Term table) : List Step :=
  term.operand.step :: term.keys.map fun key => .operation key.symbol

/-- The steps that enter terms with a binary symbol in front of each. -/
def linkSteps (links : List (BinaryKey table × Term table)) : List Step :=
  links.flatMap fun link => .operation link.1.symbol :: link.2.steps

/-- No links are entered by no steps. -/
lemma linkSteps_nil : linkSteps ([] : List (BinaryKey table × Term table)) = [] := rfl

/-- A link is entered by its symbol and the steps of its term, before the other links. -/
lemma linkSteps_cons (key : BinaryKey table) (term : Term table)
    (rest : List (BinaryKey table × Term table)) :
    linkSteps ((key, term) :: rest) = .operation key.symbol :: (term.steps ++ linkSteps rest) := rfl

/-- The steps that enter the chain. -/
def Chain.steps (chain : Chain table) : List Step := chain.first.steps ++ linkSteps chain.links

/-! ### Values -/

/-- A term whose operand has been looked up or drawn. -/
structure Reading (table : Table σ) where
  term : Term table
  start : Float

/-- The value of an operand; only a custom symbol makes a draw. -/
def Operand.value (bindings : Bindings) : Operand table → σ → Float × σ
  | number x, source => (x, source)
  | .variable name, source => (bindings.value name, source)
  | constant _ x _, source => (x, source)
  | custom _ draw _, source => draw source

/-- The term with the value of its operand. -/
def Term.reading (bindings : Bindings) (term : Term table) (source : σ) : Reading table × σ :=
  (⟨term, (term.operand.value bindings source).1⟩, (term.operand.value bindings source).2)

/-- The terms behind binary symbols with the values of their operands, drawn in order. -/
def readings (bindings : Bindings) :
    List (BinaryKey table × Term table) → σ → List (BinaryKey table × Reading table) × σ
  | [], source => ([], source)
  | (key, term) :: rest, source =>
    let reading := term.reading bindings source
    ((key, reading.1) :: (readings bindings rest reading.2).1,
      (readings bindings rest reading.2).2)

/-- A value passed through keys of one operand, in order. -/
def passed (keys : List (UnaryKey table)) (x : Float) : Float :=
  keys.foldl (fun y key => key.function.value y) x

/-- The value of a term. -/
def Reading.value (reading : Reading table) : Float := passed reading.term.keys reading.start

/-- The left fold of binary operations over the values of the terms, from a value in front. -/
def total (x : Float) (links : List (BinaryKey table × Reading table)) : Float :=
  links.foldl (fun y link => link.1.function.value y link.2.value) x

/-! ### Texts -/

/-- The text of an operand by itself, whose value is `x`. -/
def Operand.text (x : Float) : Operand table → String
  | .variable name => name
  | _ => Number.shown x

/-- The text of the operand of a term by itself. -/
def Reading.plainText (reading : Reading table) : String :=
  reading.term.operand.text reading.start

/-- A text enclosed by keys of one operand, the first key innermost. -/
def enclosed (keys : List (UnaryKey table)) (text : String) : String :=
  keys.foldl (fun text key => key.symbol ++ "(" ++ text ++ ")") text

/-- The applications of keys of one operand in a row, each to the value in front of it. -/
def applications : List (UnaryKey table) → Float → String
  | [], _ => ""
  | key :: rest, x =>
    key.symbol ++ "(" ++ Number.shown x ++ ")" ++ applications rest (key.function.value x)

/-- The text of the operand of a term behind a binary symbol. -/
def Reading.base (reading : Reading table) : String :=
  match reading.term.operand, reading.term.keys with
  | .number _, [] => Number.shown reading.start
  | .number _, _ :: _ => ""
  | .variable name, _ => name
  | .constant .., _ => Number.shown reading.start
  | .custom .., _ => Number.shown reading.start

/-- What is written of a term once more in front of the next binary symbol. -/
def Reading.again (reading : Reading table) : String :=
  match reading.term.operand, reading.term.keys with
  | .number _, [] => ""
  | .variable _, [] => ""
  | _, _ => Number.shown reading.value

/-- The text of a term behind a binary symbol; another symbol follows unless it is the last term. -/
def Reading.text (reading : Reading table) (isLast : Bool) : String :=
  reading.base ++ applications reading.term.keys reading.start ++
    if isLast then "" else reading.again

/-- The text of terms with a binary symbol in front of each. -/
def linksText : List (BinaryKey table × Reading table) → String
  | [] => ""
  | (key, reading) :: rest => key.symbol ++ reading.text rest.isEmpty ++ linksText rest

/-- The operands of terms in plain infix form, with a binary symbol in front of each. -/
def plainLinksText : List (BinaryKey table × Reading table) → String
  | [] => ""
  | (key, reading) :: rest => key.symbol ++ reading.plainText ++ plainLinksText rest

/-- Whether a term is a number or a variable without further keys. -/
def Term.isPlain (term : Term table) : Bool :=
  match term.operand, term.keys with
  | .number _, [] => true
  | .variable _, [] => true
  | _, _ => false

/-! ### Replaying a term -/

variable (bindings : Bindings)

/-- The mark behind an operand: a number leaves the mark in front of it. -/
def Operand.mark (before : Option Mark) : Operand table → Option Mark
  | number _ => before
  | .variable _ => some .variable
  | constant .. => some (.operation .constant)
  | custom .. => some (.operation .custom)

/-- The mark behind a term. -/
def Term.mark (before : Option Mark) (term : Term table) : Option Mark :=
  if term.keys = [] then term.operand.mark before else some (.operation .unary)

/-- What the step of an operand writes behind a binary symbol. -/
def Operand.written (x : Float) : Operand table → String
  | number _ => ""
  | operand => operand.text x

/-- What the steps of a term write behind a binary symbol. -/
def Reading.written (reading : Reading table) : String :=
  reading.term.operand.written reading.start ++ applications reading.term.keys reading.start

/-- A key of one operand applies its operation to the accumulator. -/
lemma run_unaryKey (key : UnaryKey table) {s : Replay} {x : Float} (hacc : s.accumulator = some x)
    (rest : List Step) (source : σ) :
    Replay.run table bindings s (.operation key.symbol :: rest) source =
      Replay.run table bindings (s.applyUnary key.symbol key.function x) rest source := by
  rw [Replay.run_cons]
  simp only [Step.meaning_of_get? key.found, Operation.meaning, Replay.after, hacc, Option.elim]

/-- A binary symbol takes the accumulator as an operand. -/
lemma run_binaryKey (key : BinaryKey table) {s : Replay} {x : Float}
    (hacc : s.accumulator = some x) (rest : List Step) (source : σ) :
    Replay.run table bindings s (.operation key.symbol :: rest) source =
      Replay.run table bindings (s.applyBinary key.symbol key.function x) rest source := by
  rw [Replay.run_cons]
  simp only [Step.meaning_of_get? key.found, Operation.meaning, Replay.after, hacc, Option.elim]

/-- An equals symbol resolves the operation that waits. -/
lemma run_equalsKey (key : EqualsKey table) {s : Replay} {x : Float}
    (hacc : s.accumulator = some x) (source : σ) :
    Replay.run table bindings s [.operation key.symbol] source = (s.applyEquals x, source) := by
  rw [Replay.run_cons]
  simp only [Step.meaning_of_get? key.found, Operation.meaning, Replay.after, hacc, Option.elim,
    Replay.run_nil]

/-- Keys of one operand while nothing waits: the description is enclosed by them. -/
lemma run_keys_of_settled (keys : List (UnaryKey table)) {s : Replay} {x : Float}
    (hacc : s.accumulator = some x) (hp : s.pending = none) (source : σ) :
    Replay.run table bindings s (keys.map fun key => .operation key.symbol) source =
      ({ s with
          accumulator := some (passed keys x)
          description := enclosed keys s.description
          last := if keys = [] then s.last else some (.operation .unary) }, source) := by
  induction keys generalizing s x with
  | nil =>
    cases s
    simp_all [passed, enclosed]
  | cons key rest ih =>
    rw [List.map_cons, run_unaryKey bindings key hacc]
    rw [ih (s := s.applyUnary key.symbol key.function x) rfl hp]
    simp [Replay.applyUnary, hp, passed, enclosed]

/-- Keys of one operand while an operation waits: each writes its application to the accumulator. -/
lemma run_keys_of_waiting (keys : List (UnaryKey table)) {s : Replay} {x : Float} {p : Pending}
    (hacc : s.accumulator = some x) (hp : s.pending = some p) (source : σ) :
    Replay.run table bindings s (keys.map fun key => .operation key.symbol) source =
      ({ s with
          accumulator := some (passed keys x)
          description := s.description ++ applications keys x
          last := if keys = [] then s.last else some (.operation .unary) }, source) := by
  induction keys generalizing s x with
  | nil =>
    cases s
    simp_all [passed, applications]
  | cons key rest ih =>
    rw [List.map_cons, run_unaryKey bindings key hacc]
    rw [ih (s := s.applyUnary key.symbol key.function x) rfl hp]
    simp [Replay.applyUnary, hp, passed, applications, String.append_assoc]

/-- An operand at the start of a replay. -/
lemma run_operand_start (operand : Operand table) (rest : List Step) (source : σ) :
    Replay.run table bindings .start (operand.step :: rest) source =
      Replay.run table bindings
        { accumulator := some (operand.value bindings source).1
          last := operand.mark none
          description := operand.text (operand.value bindings source).1 }
        rest (operand.value bindings source).2 := by
  rw [Replay.run_cons]
  rcases operand with x | name | ⟨symbol, x, found⟩ | ⟨symbol, draw, found⟩
  · rfl
  · rfl
  · simp only [Operand.step, Step.meaning_of_get? found, Operation.meaning]
    rfl
  · simp only [Operand.step, Step.meaning_of_get? found, Operation.meaning]
    rfl

/-- An operand behind a binary symbol. -/
lemma run_operand_waiting (operand : Operand table) {s : Replay} {p : Pending}
    (hp : s.pending = some p) (hlast : s.last = some (.operation .binary)) (rest : List Step)
    (source : σ) :
    Replay.run table bindings s (operand.step :: rest) source =
      Replay.run table bindings
        { s with
          accumulator := some (operand.value bindings source).1
          last := operand.mark s.last
          description := s.description ++ operand.written (operand.value bindings source).1 }
        rest (operand.value bindings source).2 := by
  have hdescribe : ∀ text, s.describe text = s.description ++ text := by
    intro text
    simp [Replay.describe, hp]
  rw [Replay.run_cons]
  rcases operand with x | name | ⟨symbol, x, found⟩ | ⟨symbol, draw, found⟩
  · simp [Operand.step, Step.meaning, Replay.after, hlast, Operand.written, Operand.mark,
      Operand.value]
  · simp only [Operand.step, Step.meaning, Replay.after, Replay.operand, hdescribe]
    rfl
  · simp only [Operand.step, Step.meaning_of_get? found, Operation.meaning, Replay.after,
      Replay.operand, hdescribe]
    rfl
  · simp only [Operand.step, Step.meaning_of_get? found, Operation.meaning, Replay.after,
      Replay.operand, hdescribe]
    rfl

/-- The state in which the first term of a chain ends. -/
lemma run_term_start (term : Term table) (source : σ) :
    Replay.run table bindings .start term.steps source =
      ({ accumulator := some (term.reading bindings source).1.value
         last := term.mark none
         description := enclosed term.keys (term.reading bindings source).1.plainText },
        (term.reading bindings source).2) := by
  rw [Term.steps, run_operand_start, run_keys_of_settled bindings term.keys rfl rfl]
  rfl

/-- The state in which a term behind a binary symbol ends. -/
lemma run_term_waiting (term : Term table) {s : Replay} {p : Pending} (hp : s.pending = some p)
    (hlast : s.last = some (.operation .binary)) (source : σ) :
    Replay.run table bindings s term.steps source =
      ({ s with
          accumulator := some (term.reading bindings source).1.value
          last := term.mark s.last
          description := s.description ++ (term.reading bindings source).1.written },
        (term.reading bindings source).2) := by
  rw [Term.steps, run_operand_waiting bindings term.operand hp hlast,
    run_keys_of_waiting bindings term.keys (x := (term.operand.value bindings source).1) (p := p)]
  · simp [Reading.written, Reading.value, Term.reading, Term.mark, String.append_assoc]
  · rfl
  · exact hp

/-! ### Replaying links -/

/-- What a binary symbol writes of the term in front of it completes the text of that term. -/
lemma Reading.text_false (reading : Reading table) :
    reading.text false = reading.written ++
      if reading.term.mark (some (.operation .binary)) = some .variable then ""
      else Number.shown reading.value := by
  obtain ⟨⟨operand, keys⟩, x⟩ := reading
  rcases operand with y | name | ⟨symbol, y, found⟩ | ⟨symbol, draw, found⟩ <;>
    rcases keys with _ | ⟨key, rest⟩ <;>
    simp [Reading.text, Reading.base, Reading.again, Reading.written, Operand.written,
      Operand.text, Term.mark, Operand.mark, applications, Reading.value, passed]

/-- What an equals symbol writes of the term in front of it completes the text of that term. -/
lemma Reading.text_true (reading : Reading table) :
    reading.text true = reading.written ++
      if reading.term.mark (some (.operation .binary)) = some (.operation .binary) then
        Number.shown reading.value
      else "" := by
  obtain ⟨⟨operand, keys⟩, x⟩ := reading
  rcases operand with y | name | ⟨symbol, y, found⟩ | ⟨symbol, draw, found⟩ <;>
    rcases keys with _ | ⟨key, rest⟩ <;>
    simp [Reading.text, Reading.base, Reading.written, Operand.written,
      Operand.text, Term.mark, Operand.mark, applications, Reading.value, passed]

/-- A term and a binary symbol: the operation that waits is resolved, and the new one waits. -/
lemma run_term_binaryKey (term : Term table) (key : BinaryKey table) {s : Replay} {p : Pending}
    (hp : s.pending = some p) (hlast : s.last = some (.operation .binary)) (rest : List Step)
    (source : σ) :
    Replay.run table bindings s (term.steps ++ .operation key.symbol :: rest) source =
      let reading := term.reading bindings source
      let y := p.resolve reading.1.value
      Replay.run table bindings
        { accumulator := some y
          pending := some ⟨key.symbol, key.function, y⟩
          last := some (.operation .binary)
          description := s.description ++ reading.1.text false ++ key.symbol }
        rest reading.2 := by
  rw [Replay.run_append, run_term_waiting bindings term hp hlast, run_binaryKey bindings key rfl]
  simp only [Replay.applyBinary, hp, hlast, Reading.text_false, ← String.append_assoc]
  rfl

/-- A term and an equals symbol: the operation that waits is resolved. -/
lemma run_term_equalsKey (term : Term table) (key : EqualsKey table) {s : Replay} {p : Pending}
    (hp : s.pending = some p) (hlast : s.last = some (.operation .binary)) (source : σ) :
    Replay.run table bindings s (term.steps ++ [.operation key.symbol]) source =
      let reading := term.reading bindings source
      ({ accumulator := some (p.resolve reading.1.value)
         last := some (.operation .equals)
         description := s.description ++ reading.1.text true }, reading.2) := by
  rw [Replay.run_append, run_term_waiting bindings term hp hlast, run_equalsKey bindings key rfl]
  simp only [Replay.applyEquals, hp, hlast, Reading.text_true, Option.elim]
  have hterm : (term.reading bindings source).1.term = term := rfl
  rw [hterm]
  split <;> simp [String.append_assoc]

/-- From a state in which an operation waits for its second operand, a term, further links and an
equals symbol lead to the left fold of all operations, with the texts of all terms. -/
lemma run_links (links : List (BinaryKey table × Term table)) (term : Term table) {s : Replay}
    {p : Pending} (hp : s.pending = some p) (hlast : s.last = some (.operation .binary))
    (key : EqualsKey table) (source : σ) :
    Replay.run table bindings s
        (term.steps ++ (linkSteps links ++ [.operation key.symbol])) source =
      let reading := term.reading bindings source
      let rest := readings bindings links reading.2
      ({ accumulator := some (total (p.resolve reading.1.value) rest.1)
         last := some (.operation .equals)
         description := s.description ++ reading.1.text rest.1.isEmpty ++ linksText rest.1 },
        rest.2) := by
  induction links generalizing term s p source with
  | nil =>
    rw [linkSteps_nil, List.nil_append, run_term_equalsKey bindings term key hp hlast]
    simp [readings, total, linksText]
  | cons link rest ih =>
    obtain ⟨binaryKey, next⟩ := link
    rw [linkSteps_cons, List.cons_append, run_term_binaryKey bindings term binaryKey hp hlast,
      List.append_assoc]
    simp only
    rw [ih next rfl rfl]
    simp only [readings, total, List.foldl_cons, linksText, List.isEmpty_cons, Pending.resolve,
      ← String.append_assoc]

/-! ### The law of chains -/

/-- A chain and an equals symbol lead to the left fold of its operations, with the texts of its
terms. -/
lemma run_chain (chain : Chain table) (key : EqualsKey table) (source : σ) :
    Replay.run table bindings .start (chain.steps ++ [.operation key.symbol]) source =
      let first := chain.first.reading bindings source
      let links := readings bindings chain.links first.2
      ({ accumulator := some (total first.1.value links.1)
         last := some (.operation .equals)
         description := enclosed chain.first.keys first.1.plainText ++ linksText links.1 },
        links.2) := by
  obtain ⟨first, links⟩ := chain
  rw [Chain.steps, List.append_assoc, Replay.run_append, run_term_start]
  cases links with
  | nil =>
    have hmark : first.mark none ≠ some (.operation .binary) := by
      obtain ⟨operand, keys⟩ := first
      cases operand <;> cases keys <;> simp [Term.mark, Operand.mark]
    rw [linkSteps_nil, List.nil_append, run_equalsKey bindings key rfl]
    simp [Replay.applyEquals, hmark, readings, total, linksText]
  | cons link rest =>
    obtain ⟨binaryKey, next⟩ := link
    rw [linkSteps_cons, List.cons_append, run_binaryKey bindings binaryKey rfl, List.append_assoc,
      run_links bindings rest next rfl rfl]
    simp only [readings, total, List.foldl_cons, linksText, Replay.applyBinary, Pending.resolve,
      String.append_assoc]

/-- A plain term is described by the text of its operand, wherever it stands. -/
lemma Reading.text_of_isPlain {reading : Reading table} (h : reading.term.isPlain = true)
    (isLast : Bool) : reading.text isLast = reading.plainText := by
  obtain ⟨⟨operand, keys⟩, x⟩ := reading
  cases operand <;> cases keys <;>
    simp_all [Term.isPlain, Reading.text, Reading.base, Reading.again, Reading.plainText,
      Operand.text, applications]

/-- Links to plain terms are described in plain infix form. -/
lemma linksText_of_isPlain (links : List (BinaryKey table × Term table)) (source : σ)
    (h : ∀ link ∈ links, link.2.isPlain = true) :
    linksText (readings bindings links source).1 =
      plainLinksText (readings bindings links source).1 := by
  induction links generalizing source with
  | nil => rfl
  | cons link rest ih =>
    obtain ⟨key, term⟩ := link
    have hterm : (term.reading bindings source).1.term.isPlain = true := h _ List.mem_cons_self
    have hrest := ih (term.reading bindings source).2 fun link hl =>
      h link (List.mem_cons_of_mem _ hl)
    simp only [readings, linksText, plainLinksText, Reading.text_of_isPlain hterm, hrest]

/-- The lenient evaluation of a chain and an equals symbol is settled. Its result is the left fold
of the binary operations over the values of the terms, and its description is the text of the first
operand, enclosed by its keys, and the texts of the other terms behind their binary symbols. If all
terms are plain numbers and variables, this is plain infix form. -/
theorem evaluate_chain (chain : Chain table) (key : EqualsKey table) (source : σ) :
    let first := chain.first.reading bindings source
    let links := readings bindings chain.links first.2
    evaluate table bindings (chain.steps ++ [.operation key.symbol]) source =
        (⟨some (total first.1.value links.1), false,
          enclosed chain.first.keys first.1.plainText ++ linksText links.1⟩, links.2) ∧
      (chain.first.isPlain = true → (∀ link ∈ chain.links, link.2.isPlain = true) →
        (evaluate table bindings (chain.steps ++ [.operation key.symbol]) source).1.description =
          first.1.plainText ++ plainLinksText links.1) := by
  intro first links
  have hevaluate : evaluate table bindings (chain.steps ++ [.operation key.symbol]) source =
      (⟨some (total first.1.value links.1), false,
        enclosed chain.first.keys first.1.plainText ++ linksText links.1⟩, links.2) := by
    simp only [evaluate, run_chain]
    rfl
  refine ⟨hevaluate, ?_⟩
  intro hfirst hlinks
  have hkeys : chain.first.keys = [] := by
    obtain ⟨⟨operand, keys⟩, rest⟩ := chain
    cases operand <;> cases keys <;> simp_all [Term.isPlain]
  rw [hevaluate, hkeys, linksText_of_isPlain bindings chain.links first.2 hlinks]
  rfl

/-- In `7 + 7 × M` the sum is multiplied, and the description repeats what was entered. -/
theorem evaluate_chain_of_sevens :
    let table := Table.standard Supply.between
    let plus : BinaryKey table := ⟨"+", _, rfl⟩
    let times : BinaryKey table := ⟨"×", _, rfl⟩
    let equals : EqualsKey table := ⟨"=", rfl⟩
    let chain : Chain table :=
      ⟨⟨.number 7, []⟩, [(plus, ⟨.number 7, []⟩), (times, ⟨.variable "M", []⟩)]⟩
    chain.first.isPlain = true ∧ (∀ link ∈ chain.links, link.2.isPlain = true) ∧
      (evaluate table .empty (chain.steps ++ [.operation equals.symbol]) {}).1.description =
        "7+7×M" := by
  intro table plus times equals chain
  have hfirst : chain.first.isPlain = true := rfl
  have hlinks : ∀ link ∈ chain.links, link.2.isPlain = true := by decide
  refine ⟨hfirst, hlinks, ?_⟩
  rw [(evaluate_chain .empty chain equals {}).2 hfirst hlinks]
  decide +kernel

end ReplayCalculator
