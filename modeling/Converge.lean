import Converge.Cluster.Disturbance
import Converge.Cluster.Memory
import Converge.Main
import Converge.Proofs.Accounting
import Converge.Proofs.CheckMode
import Converge.Proofs.Convergence
import Converge.Proofs.Protocol
import Converge.Proofs.Transports
import Converge.Proofs.Validation
import Converge.Proofs.Namespaces
import Converge.Proofs.Meeting
import Converge.Proofs.Holdings
import Converge.Proofs.Race
import Converge.Proofs.Concurrency
import Converge.Proofs.Idempotence
import Converge.Proofs.ReportKeys
import Converge.Proofs.Filing
import Converge.Proofs.Recovery
import Converge.Proofs.SameDocument
import Converge.Proofs.StandardInput
import Converge.Proofs.Composition
import Converge.Proofs.Facts
import Converge.Proofs.Order
import Converge.Proofs.Absence
import Converge.Proofs.PortRendering
import Converge.Proofs.Context
import Converge.Proofs.FieldOrder
import Converge.Proofs.ReportText
import Converge.Proofs.Stopping
import Converge.Proofs.Quoting
import Converge.Proofs.SecretEntries
import Converge.Proofs.Versions
import Converge.Proofs.Addresses
import Converge.Proofs.Deployments
import Converge.Proofs.NameLanguage
