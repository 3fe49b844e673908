import UriMount.Settings
import UriMount.Walk
import UriMount.Proofs.RoundTrip
import UriMount.Proofs.Resolution
import UriMount.Proofs.Standard
import UriMount.Proofs.Walks
import UriMount.Proofs.Composition
import UriMount.Proofs.Extensions
import UriMount.Proofs.Joining
import UriMount.Proofs.Slashes
import UriMount.Proofs.Rebuilding
import UriMount.Proofs.Depth
import UriMount.Proofs.Descent
import UriMount.Proofs.Hostless
import UriMount.Proofs.Schemes
import UriMount.Proofs.Identity
import UriMount.Proofs.Destinations
import UriMount.Proofs.NormalPaths
import UriMount.Proofs.Stability
import UriMount.Proofs.PathReferences
import UriMount.Proofs.RawMounts
import UriMount.Proofs.Independence
import UriMount.Proofs.Surroundings
import UriMount.Proofs.Acceptance
import UriMount.Proofs.Appending
import UriMount.Proofs.Parameters
import UriMount.Proofs.RawPaths
import UriMount.Proofs.VariableNames
