import ReplayCalculator.Evaluation.Basic

/-!
# The status of a calculation

One word for where a calculation stands, taken from its lenient evaluation and from the last step
that has a meaning. Unknown symbols are passed over in a replay, so that they do not count as last
step either.
-/

namespace ReplayCalculator

/-- Where a calculation stands. -/
inductive Status
  | empty
  | operandOnly
  | operationPending
  | resolved
  deriving DecidableEq, Repr

/-- The word for a status. -/
def Status.name : Status → String
  | empty => "empty"
  | operandOnly => "operand-only"
  | operationPending => "operation-pending"
  | resolved => "resolved"

variable {σ : Type} (table : Table σ)

/-- Whether a step has a meaning under the table. -/
def Step.isKnown : Step → Bool
  | .operation symbol => (table.find? symbol).isSome
  | _ => true

/-- Whether the last step that has a meaning is a symbol. -/
def endsInOperation (steps : List Step) : Bool :=
  match (steps.filter (Step.isKnown table)).getLast? with
  | some (.operation _) => true
  | _ => false

/-- The status of a calculation, and the source after the draws of its evaluation. -/
def status (bindings : Bindings) (steps : List Step) (source : σ) : Status × σ :=
  let (evaluation, source) := evaluate table bindings steps source
  (if evaluation.isPending then .operationPending
    else if evaluation.result.isNone then .empty
    else if endsInOperation table steps then .resolved
    else .operandOnly, source)

end ReplayCalculator
