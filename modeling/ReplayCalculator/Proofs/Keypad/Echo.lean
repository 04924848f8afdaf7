import ReplayCalculator.Proofs.Decimal.NormalForm
import ReplayCalculator.Proofs.Evaluation.Settled
import ReplayCalculator.Proofs.Keypad.Binding

/-!
# What is typed is what is shown

A numeral that is typed into a keypad with nothing in its log, and then closed with an equals
symbol, goes a long way: it is read as a binary64 number, recorded, replayed and written again. As
long as it has at most six places and lies below `2 ^ 33`, nothing is lost on this way but the zeros
and the point that say nothing. The display and the description show its normal form
(`perform_typingKeys_equals`).
-/

namespace ReplayCalculator

variable {σ : Type} {table : Table σ}

/-- A number behind which an equals symbol stands is the result, in every mode. -/
lemma evaluateIn_number_equals {symbol : String} (hsymbol : table.get? symbol = some .equals)
    (bindings : Bindings) (mode : Mode) (x : Float) (source : σ) :
    evaluateIn table bindings mode [.number x, .operation symbol] source =
      (.ok ⟨some x, false, Number.shown x⟩, source) := by
  have hnumber : Replay.start.objection? mode (.number x) = none := by
    cases mode with
    | lenient => rfl
    | tolerant => rfl
    | strict => rfl
  have hequals : (Replay.start.after (.number x)).objection? mode (.equals symbol) = none :=
    objection?_equals rfl (fun _ => Option.some_ne_none x) symbol
  have hmeaning : (Step.number x).meaning table bindings source = (.number x, source) := rfl
  simp only [evaluateIn, Replay.runIn_cons, hmeaning, hnumber, meaning_equals hsymbol, hequals]
  rfl

namespace Keypad

open Numeral

/-- Where the log is empty, a typed number that is closed with an equals symbol is shown. -/
lemma operation_equals_of_typing {symbol : String} (hsymbol : table.get? symbol = some .equals)
    {k : Keypad} (htyping : k.typing = true) (hlog : k.log.steps = []) {x : Float}
    (hvalue : k.displayValue? = some x) (source : σ) :
    let k' := (k.operation table symbol source).1
    k'.display = Number.shown x ∧ k'.description = Number.shown x ++ "=" := by
  intro k'
  have hcommit : k.commit = { k.record (.number x) with typing := false } := by
    simp only [commit, htyping, if_true, hvalue, Option.elim_some]
  have hsteps : (k.commit.record (.operation symbol)).log.steps =
      [.number x, .operation symbol] := by
    simp only [hcommit, record, Log.steps_append, hlog, List.nil_append, List.singleton_append]
  have hpresent : k' = (k.commit.record (.operation symbol)).present none
      ⟨some x, false, Number.shown x⟩ := by
    simp only [k', operation, refresh, hsteps, evaluateIn_number_equals hsymbol]
  rw [hpresent]
  exact ⟨rfl, rfl⟩

/-- A numeral that is typed on a new keypad and closed with an equals symbol is shown in normal
form. -/
lemma perform_new_typingKeys_equals {symbol : String} (hsymbol : table.get? symbol = some .equals)
    {cs : List Char} (h : IsPlainNumeral cs) (hplaces : (fractionPart cs).length ≤ 6)
    (hbound : plainValue cs < 2 ^ 33) (checked : Bool) (source : σ) :
    let k := ((new checked).perform table source (typingKeys cs ++ [.operation symbol])).1
    k.display = String.ofList (normalForm cs) ∧
      k.description = String.ofList (normalForm cs) ++ "=" := by
  intro k
  obtain ⟨x, hread, hshown⟩ := exists_shown_eq_normalForm h hplaces hbound
  obtain ⟨typed, htyped⟩ : ∃ typed : Keypad, typed =
    { new checked with display := String.ofList cs, typing := true } := ⟨_, rfl⟩
  have htyping : (new checked).perform table source (typingKeys cs) = (typed, source) := by
    rw [htyped]
    exact perform_typingKeys h rfl source
  have hk : k = (typed.operation table symbol source).1 := by
    simp only [k, perform_append, htyping, perform, act]
  have hvalue : typed.displayValue? = some x := by
    rw [htyped]
    exact hread
  rw [hk, ← hshown]
  exact operation_equals_of_typing hsymbol (by rw [htyped]) (by rw [htyped]; rfl) hvalue source

/-- A numeral with at most six places and below `2 ^ 33` is typed on a new keypad, or on any keypad
after its clean key, and then an equals symbol is pressed. Display and description show the normal
form of the numeral. -/
theorem perform_typingKeys_equals (table : Table σ) {symbol : String}
    (hsymbol : table.get? symbol = some .equals) {cs : List Char} (h : IsPlainNumeral cs)
    (hplaces : (fractionPart cs).length ≤ 6) (hbound : plainValue cs < 2 ^ 33) (source : σ) :
    (∀ checked : Bool,
      let k := ((new checked).perform table source (typingKeys cs ++ [.operation symbol])).1
      k.display = String.ofList (normalForm cs) ∧
        k.description = String.ofList (normalForm cs) ++ "=") ∧
      ∀ earlier : Keypad,
        let k := (earlier.perform table source (.clean :: typingKeys cs ++ [.operation symbol])).1
        k.display = String.ofList (normalForm cs) ∧
          k.description = String.ofList (normalForm cs) ++ "=" := by
  refine ⟨fun checked => ?_, fun earlier => ?_⟩
  · exact perform_new_typingKeys_equals hsymbol h hplaces hbound checked source
  · exact perform_new_typingKeys_equals hsymbol h hplaces hbound earlier.checked source

/-- A numeral just below `2 ^ 33` loses the zeros in front of it and behind it, also on a keypad on
which a division was begun and cleaned away. -/
theorem perform_typingKeys_equals_of_zeros :
    let table := Table.standard Supply.between
    let cs := ['0', '0', '8', '5', '8', '9', '9', '3', '4', '5', '9', '1', '.', '9', '9', '9',
      '9', '9', '0']
    let earlier := ((new true).perform table ({} : Supply) [.digit "7", .operation "÷"]).1
    let k := ((new true).perform table ({} : Supply) (typingKeys cs ++ [.operation "="])).1
    let k' := (earlier.perform table ({} : Supply) (.clean :: typingKeys cs ++ [.operation "="])).1
    table.get? "=" = some .equals ∧ IsPlainNumeral cs ∧ (fractionPart cs).length ≤ 6 ∧
      plainValue cs < 2 ^ 33 ∧ earlier.description = "7÷..." ∧ k.display = "8589934591.99999" ∧
      k'.display = "8589934591.99999" ∧ k'.description = "8589934591.99999=" := by
  intro table cs earlier k k'
  have hequals : table.get? "=" = some .equals := rfl
  have hnumeral : IsPlainNumeral cs :=
    ⟨List.all_eq_true.mp (by decide), by decide, '8', by decide, by decide⟩
  have hplaces : (fractionPart cs).length ≤ 6 := by decide
  have hbound : plainValue cs < 2 ^ 33 := by decide +kernel
  have hform : String.ofList (normalForm cs) = "8589934591.99999" := by decide
  obtain ⟨hnew, hclean⟩ :=
    perform_typingKeys_equals table hequals hnumeral hplaces hbound ({} : Supply)
  obtain ⟨hdisplay, -⟩ := hnew true
  obtain ⟨hdisplay', hdescription'⟩ := hclean earlier
  rw [hform] at hdisplay hdisplay' hdescription'
  exact ⟨hequals, hnumeral, hplaces, hbound, by decide +kernel, hdisplay, hdisplay', hdescription'⟩

end Keypad

end ReplayCalculator
