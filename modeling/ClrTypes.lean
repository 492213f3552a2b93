import ClrTypes.Enumeration
import ClrTypes.Navigation
import ClrTypes.Resolution
import ClrTypes.Proofs.Registration
import ClrTypes.Proofs.Resolution.Legality
import ClrTypes.Proofs.Resolution.Faults
import ClrTypes.Proofs.Resolution.Markers
import ClrTypes.Proofs.Resolution.Truncation
import ClrTypes.Proofs.Resolution.Substitution
import ClrTypes.Proofs.Session
import ClrTypes.Proofs.Substitution.Composition
import ClrTypes.Proofs.Instantiation.Depth
import ClrTypes.Proofs.Naming
import ClrTypes.Proofs.Registration.Lookup
import ClrTypes.Proofs.Resolution.Stability
import ClrTypes.Proofs.Substitution.Mentions
import ClrTypes.Proofs.Instantiation.Decision
import ClrTypes.Proofs.Navigation.Substitution
import ClrTypes.Proofs.Navigation.Containers
import ClrTypes.Proofs.Nesting.Walk
import ClrTypes.Proofs.Resolution.Nongeneric
import ClrTypes.Proofs.Substitution.Equality
import ClrTypes.Proofs.Substitution.Sharing
import ClrTypes.Proofs.Assembly
import ClrTypes.Proofs.Naming.Nested
import ClrTypes.Proofs.Instantiation.Unbinding
import ClrTypes.Proofs.Assembly.Classes
import ClrTypes.Proofs.Recording.Once
import ClrTypes.Proofs.Resolution.Reports
import ClrTypes.Proofs.Substitution.Coincidence
import ClrTypes.Proofs.Layout.Obtained
