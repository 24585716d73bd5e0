import Quarantine.Document.Tag
import Quarantine.Document.View
import Quarantine.Engine.Clamd.Session
import Quarantine.Simulation.Bench
import Quarantine.Simulation.Visit
import Quarantine.Source.Tee
import Quarantine.Store.Directory
import Quarantine.Proofs.Digest.Progress
import Quarantine.Proofs.Document.Identity
import Quarantine.Proofs.Document.Tag
import Quarantine.Proofs.Source.Drain
import Quarantine.Proofs.Source.Tee
import Quarantine.Proofs.Text.Blank
import Quarantine.Proofs.Text.Lossy
import Quarantine.Proofs.Engine.Clamd
import Quarantine.Proofs.Engine.Reply
import Quarantine.Proofs.Store.Calls
import Quarantine.Proofs.Store.Disk
import Quarantine.Proofs.Store.Directory
import Quarantine.Proofs.Store.Atomic
import Quarantine.Proofs.Store.Mirror
import Quarantine.Proofs.Store.Lookup
import Quarantine.Proofs.Scan.Steps
import Quarantine.Proofs.Scan.Attempts
import Quarantine.Proofs.Service.Origin
import Quarantine.Proofs.Service.Failure
import Quarantine.Proofs.Service.Finality
import Quarantine.Proofs.Service.Pending
import Quarantine.Proofs.Service.Resolution
import Quarantine.Proofs.Service.Verdicts
import Quarantine.Proofs.Service.Intake
import Quarantine.Proofs.Service.Admission
import Quarantine.Proofs.Service.Reupload
import Quarantine.Proofs.Service.Race
import Quarantine.Proofs.Service.Capacity
import Quarantine.Proofs.Service.Integrity
import Quarantine.Proofs.Service.Release
import Quarantine.Proofs.Service.Ownership
import Quarantine.Proofs.Service.Confluence
import Quarantine.Proofs.Log.Ledger
import Quarantine.Proofs.Service.Trail
import Quarantine.Proofs.Service.Config
import Quarantine.Proofs.Service.Build
import Quarantine.Proofs.Service.Retention
import Quarantine.Proofs.Document.Interchange
import Quarantine.Proofs.Document.View
import Quarantine.Proofs.Engine.Mock
import Quarantine.Proofs.Simulation.Bench
import Quarantine.Proofs.Service.Sleeps
