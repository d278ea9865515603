import Reconcile.Main
import Reconcile.Proofs.CommandLine.Ingest
import Reconcile.Proofs.Engine.Amounts
import Reconcile.Proofs.Traffic.Answers
import Reconcile.Proofs.Traffic.Links
import Reconcile.Proofs.Traffic.Provenance
import Reconcile.Proofs.Engine.Order
import Reconcile.Proofs.Engine.Counting
import Reconcile.Proofs.Engine.Naming
import Reconcile.Proofs.Engine.Equivalent
import Reconcile.Proofs.Payload.ReadBack
import Reconcile.Proofs.Engine.Tagged
import Reconcile.Proofs.Matching.Precedence
import Reconcile.Proofs.Matching.Twins
import Reconcile.Proofs.Traffic.Reading
import Reconcile.Proofs.Settings.Masking
import Reconcile.Proofs.Matching.Fidelity
import Reconcile.Proofs.Address.Number
import Reconcile.Proofs.Decimal.PlainForm
import Reconcile.Proofs.Runner.Schedule
import Reconcile.Proofs.Settings.Reading
import Reconcile.Proofs.Store.Kept
