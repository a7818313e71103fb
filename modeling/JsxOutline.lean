import JsxOutline.Main
import JsxOutline.Reading.Show
import JsxOutline.Proofs.Occurrence
import JsxOutline.Proofs.Spelling
import JsxOutline.Proofs.Lookup
import JsxOutline.Proofs.Locating
import JsxOutline.Proofs.Candidates
import JsxOutline.Proofs.Growth
import JsxOutline.Proofs.NodeState
import JsxOutline.Proofs.Telling
import JsxOutline.Proofs.Accounting
import JsxOutline.Proofs.ScanDepth
import JsxOutline.Proofs.Unfolding
import JsxOutline.Proofs.Cycles
import JsxOutline.Proofs.ModuleDirectory
import JsxOutline.Proofs.RelativeSpecifiers
import JsxOutline.Proofs.Decoding
import JsxOutline.Proofs.Utf8
import JsxOutline.Proofs.Utf16
import JsxOutline.Proofs.TextFiles
import JsxOutline.Proofs.Failure
import JsxOutline.Proofs.Overwriting
import JsxOutline.Proofs.Locality
import JsxOutline.Proofs.Finiteness
import JsxOutline.Proofs.Ending
import JsxOutline.Proofs.Hiding
import JsxOutline.Proofs.Drawing
import JsxOutline.Proofs.Containers
import JsxOutline.Proofs.JsonAtoms
import JsxOutline.Proofs.JsonRoundTrip
import JsxOutline.Proofs.Documents
import JsxOutline.Proofs.Exits
import JsxOutline.Proofs.Writing
import JsxOutline.Proofs.Backing
import JsxOutline.Proofs.Rerooting
import JsxOutline.Proofs.RootFile
import JsxOutline.Proofs.Stylesheets
import JsxOutline.Proofs.BareSpecifiers
import JsxOutline.Proofs.UsedImports
import JsxOutline.Proofs.WrappedImports
import JsxOutline.Proofs.ExportLines
import JsxOutline.Proofs.ContainerLabels
import JsxOutline.Proofs.NestedPaths
import JsxOutline.Proofs.Reexports
import JsxOutline.Proofs.SiblingOrder
import JsxOutline.Proofs.StaticAliases
import JsxOutline.Proofs.FirstErrors
import JsxOutline.Proofs.ShownPaths
import JsxOutline.Proofs.AliasFiles
import JsxOutline.Proofs.WrittenAliases
import JsxOutline.Proofs.Collapsing
import JsxOutline.Proofs.Traversal
