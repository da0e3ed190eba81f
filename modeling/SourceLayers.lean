import SourceLayers.Main
import SourceLayers.Proofs.CommentScan
import SourceLayers.Proofs.Coverage
import SourceLayers.Proofs.Extension
import SourceLayers.Proofs.Recursion
import SourceLayers.Proofs.Translation
import SourceLayers.Proofs.Superposition
import SourceLayers.Proofs.Enumeration
import SourceLayers.Proofs.Route
import SourceLayers.Proofs.Evidence
import SourceLayers.Proofs.Encoding
import SourceLayers.Proofs.JsonText
import SourceLayers.Proofs.FileTree
import SourceLayers.Proofs.Store
import SourceLayers.Proofs.Batch
import SourceLayers.Proofs.Sidecar
import SourceLayers.Proofs.Command
import SourceLayers.Proofs.Selection
import SourceLayers.Proofs.Agreement
import SourceLayers.Proofs.Accounting
import SourceLayers.Proofs.Foremost
import SourceLayers.Proofs.Staging
import SourceLayers.Proofs.Offsets
import SourceLayers.Proofs.Lookup
import SourceLayers.Proofs.TypeList
import SourceLayers.Proofs.Callee
import SourceLayers.Proofs.Spread
import SourceLayers.Proofs.Counting
import SourceLayers.Proofs.StoredTree
import SourceLayers.Proofs.Listing
import SourceLayers.Proofs.FailedStore
import SourceLayers.Proofs.Override
import SourceLayers.Proofs.Draft
import SourceLayers.Proofs.Outer
import SourceLayers.Proofs.CommentRun
import SourceLayers.Proofs.Nesting
