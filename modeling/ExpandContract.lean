import ExpandContract.Json.Printer
import ExpandContract.Proofs.Backfill.Reports
import ExpandContract.Proofs.Ledger.Capturing
import ExpandContract.Proofs.Ledger.Comparison
import ExpandContract.Proofs.Lifecycle.Agreement
import ExpandContract.Proofs.Lifecycle.Cancellation
import ExpandContract.Proofs.Lifecycle.Checking
import ExpandContract.Proofs.Lifecycle.Connecting
import ExpandContract.Proofs.Lifecycle.Convergence
import ExpandContract.Proofs.Lifecycle.Expansion
import ExpandContract.Proofs.Lifecycle.Finishing
import ExpandContract.Proofs.Lifecycle.Indexing
import ExpandContract.Proofs.Lifecycle.Installing
import ExpandContract.Proofs.Lifecycle.Keys
import ExpandContract.Proofs.Lifecycle.Recall
import ExpandContract.Proofs.Lifecycle.Recognition
import ExpandContract.Proofs.Lifecycle.Reserving
import ExpandContract.Proofs.Lifecycle.Residue
import ExpandContract.Proofs.Lifecycle.Serving
import ExpandContract.Proofs.Lifecycle.Shadowing
import ExpandContract.Proofs.Lifecycle.Unstarted
import ExpandContract.Proofs.Lifecycle.Upkeep
import ExpandContract.Proofs.Migration.Locality
import ExpandContract.Proofs.Schema.Ordering
import ExpandContract.Proofs.Schema.Views
import ExpandContract.Proofs.Sql.Delimiting
import ExpandContract.Proofs.Sql.Spellings
import ExpandContract.Proofs.Time.Growth
import ExpandContract.Session.Lifecycle
import ExpandContract.Session.Rules
import ExpandContract.Time.Rehearsal
