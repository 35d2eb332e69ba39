import PropertyConfig.Document.App
import PropertyConfig.Load.Loader
import PropertyConfig.Number.Shortest
import PropertyConfig.Resource.FileTree
import PropertyConfig.Store.Arguments
import PropertyConfig.Store.Description
import PropertyConfig.Store.Listing
import PropertyConfig.Store.Watched
import PropertyConfig.Proofs.Expansion.Stretch
import PropertyConfig.Proofs.Text.Trimming
import PropertyConfig.Validation.Report
import PropertyConfig.Proofs.Expansion.References
import PropertyConfig.Proofs.Expansion.Stabilization
import PropertyConfig.Proofs.Line
import PropertyConfig.Proofs.Load.Run
import PropertyConfig.Proofs.Load.Inlining
import PropertyConfig.Proofs.Url.Scheme
import PropertyConfig.Proofs.Resource.Target
import PropertyConfig.Proofs.Load.FileAccess
import PropertyConfig.Proofs.Load.Ceiling
import PropertyConfig.Proofs.Load.FailedInclude
import PropertyConfig.Proofs.Load.Additivity
import PropertyConfig.Proofs.Load.Blocks
import PropertyConfig.Proofs.Load.Skipping
import PropertyConfig.Proofs.Load.Into
import PropertyConfig.Proofs.Load.Grammar
import PropertyConfig.Proofs.Store.Operations
import PropertyConfig.Proofs.Store.OrderedMap
import PropertyConfig.Proofs.Store.Untouched
import PropertyConfig.Proofs.Store.Listing
import PropertyConfig.Proofs.Load.Assignments
import PropertyConfig.Proofs.Load.Pairs
import PropertyConfig.Proofs.Load.Provenance
import PropertyConfig.Proofs.Load.Verbosity
import PropertyConfig.Proofs.Store.Mirroring
import PropertyConfig.Proofs.Store.Naming
import PropertyConfig.Proofs.Document.Leaves
import PropertyConfig.Proofs.Document.Entries
import PropertyConfig.Proofs.Document.Integers
import PropertyConfig.Proofs.Store.Reading
import PropertyConfig.Proofs.Store.Copying
import PropertyConfig.Proofs.Store.Arguments
import PropertyConfig.Proofs.Number.Digits
import PropertyConfig.Proofs.Scalar.IntegerPrefix
import PropertyConfig.Proofs.Text.Prefixes
import PropertyConfig.Proofs.Text.Splitting
import PropertyConfig.Proofs.Text.Lowercase
import PropertyConfig.Proofs.Store.Dividing
import PropertyConfig.Proofs.Validation.Fulfillment
import PropertyConfig.Proofs.Validation.Ambiguity
import PropertyConfig.Proofs.Line.Written
import PropertyConfig.Proofs.Environment
import PropertyConfig.Proofs.Line.Undocumented
import PropertyConfig.Proofs.Load.Conditions
import PropertyConfig.Proofs.Load.Diagnostics
import PropertyConfig.Proofs.Number.Literal
import PropertyConfig.Proofs.Scalar.Real
import PropertyConfig.Proofs.Text.Slices
import PropertyConfig.Proofs.Expansion.Closing
import PropertyConfig.Proofs.Expansion.Numbered
import PropertyConfig.Proofs.Expansion.BytePass
import PropertyConfig.Proofs.Expansion.Pieces
import PropertyConfig.Proofs.Expansion.Exchanges
import PropertyConfig.Proofs.Expansion.Account
import PropertyConfig.Proofs.Expansion.Bytewise
