import ReplayCalculator.Main
import ReplayCalculator.Proofs.Decimal.Exact
import ReplayCalculator.Proofs.Evaluation.Agreement
import ReplayCalculator.Proofs.Evaluation.Chain
import ReplayCalculator.Proofs.Evaluation.Inlining
import ReplayCalculator.Proofs.Evaluation.Outline
import ReplayCalculator.Proofs.Keypad.Doors
import ReplayCalculator.Proofs.Keypad.Echo
import ReplayCalculator.Proofs.Keypad.Memory
import ReplayCalculator.Proofs.Keypad.Unchecked
import ReplayCalculator.Proofs.Keypad.Undo
import ReplayCalculator.Proofs.Operation.Grouping
import ReplayCalculator.Proofs.Replay.Growth
import ReplayCalculator.Proofs.Web.Body
import ReplayCalculator.Proofs.Web.Isolation
