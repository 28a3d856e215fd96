import Forge.Main
import Forge.Package
import Forge.Rehearsal.CommandLine
import Forge.Proofs.Merge.Once
import Forge.Proofs.Merge.Outcome
import Forge.Proofs.Merge.SharedPath
import Forge.Proofs.Scope.Recorded
import Forge.Proofs.Lifecycle.Race
import Forge.Proofs.Lifecycle.Assignments
import Forge.Proofs.Frame.Erasure
import Forge.Proofs.Taxonomy.Closed
import Forge.Proofs.Permanence.Lasting
import Forge.Proofs.Merge.Walk
import Forge.Proofs.Merge.Timely
import Forge.Proofs.Listing.Agreement
import Forge.Proofs.Validation.Worlds
import Forge.Proofs.Git.Contract
import Forge.Proofs.Chronology
import Forge.Proofs.Constraints.Operations
import Forge.Proofs.Creation
import Forge.Proofs.Branch
import Forge.Proofs.Merge.Message
import Forge.Proofs.Lock.Wait
import Forge.Proofs.Lock.Leak
import Forge.Proofs.StateDirectory
import Forge.Proofs.Settings.Faults
import Forge.Proofs.Independence.Operations
import Forge.Proofs.Companions
import Forge.Proofs.LastWords
import Forge.Proofs.Time.Stamp
import Forge.Proofs.Presentation
