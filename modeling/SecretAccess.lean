import SecretAccess.Host.Script
import SecretAccess.Main
import SecretAccess.Relation.Laws
import SecretAccess.Proofs.History
import SecretAccess.Proofs.Sorted
import SecretAccess.Proofs.Refinement
import SecretAccess.Proofs.Appearance
import SecretAccess.Proofs.Queries
import SecretAccess.Proofs.Resolution
import SecretAccess.Proofs.Merging
import SecretAccess.Proofs.Cleaning
import SecretAccess.Proofs.Visibility
import SecretAccess.Proofs.Order
import SecretAccess.Proofs.Effect
import SecretAccess.Proofs.CrossReference
import SecretAccess.Proofs.Dot.Reader
import SecretAccess.Proofs.Reachability
import SecretAccess.Proofs.Dot.Outline
import SecretAccess.Proofs.Dot.Exact
import SecretAccess.Proofs.Dot.Faithful
import SecretAccess.Proofs.GraphShape
import SecretAccess.Proofs.Json.Report
import SecretAccess.Proofs.Following
import SecretAccess.Proofs.Layout
import SecretAccess.Proofs.Tree.Reader
import SecretAccess.Proofs.Tree.Faithful
import SecretAccess.Proofs.Failure
import SecretAccess.Proofs.Composition
import SecretAccess.Proofs.KeyMaterial
import SecretAccess.Proofs.Trail
import SecretAccess.Proofs.Replacement
import SecretAccess.Proofs.Styling
import SecretAccess.Proofs.Decoration
import SecretAccess.Proofs.Tree.Decoration
import SecretAccess.Proofs.Alignment
import SecretAccess.Proofs.Themes
import SecretAccess.Proofs.Counts
import SecretAccess.Proofs.Partition
import SecretAccess.Proofs.Json.Objects
import SecretAccess.Proofs.Tree.Places
import SecretAccess.Proofs.KeyRecords
import SecretAccess.Proofs.Listing
import SecretAccess.Proofs.Table.Measure
import SecretAccess.Proofs.Table.Grid
import SecretAccess.Proofs.Table.Exact
import SecretAccess.Proofs.Table.Reader
import SecretAccess.Proofs.Table.Keys
import SecretAccess.Proofs.Table.Matrix
import SecretAccess.Proofs.CommandLine.Given
import SecretAccess.Proofs.CommandLine.RoundTrip
import SecretAccess.Proofs.Configuration
import SecretAccess.Proofs.Precedence
import SecretAccess.Proofs.Indifference
