import Observables.Request
import Observables.Proofs.TeardownRun
import Observables.Proofs.Discharge
import Observables.Proofs.Refinement
import Observables.Proofs.Delivery
import Observables.Proofs.Ledger
import Observables.Proofs.Lineage
import Observables.Proofs.Retelling
import Observables.Proofs.Convergence
import Observables.Proofs.Chain
import Observables.Proofs.Issue
import Observables.Proofs.Rejection
import Observables.Proofs.Port
import Observables.Proofs.PortedWorld
import Observables.Proofs.Agreement
import Observables.Proofs.Mirror
import Observables.Proofs.Precedence
import Observables.Proofs.Isolation
import Observables.Proofs.Separation
import Observables.Proofs.Silence
import Observables.Proofs.Parting
import Observables.Proofs.Sight
import Observables.Proofs.Abort
