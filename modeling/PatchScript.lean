import PatchScript.Decimal.Reader
import PatchScript.Proofs.Grammar.Nesting
import PatchScript.Proofs.Grammar.RoundTrip
import PatchScript.Proofs.Grammar.SourceOrder
import PatchScript.Proofs.Execution.ImportProtocol
import PatchScript.Proofs.Execution.Constants
import PatchScript.Proofs.Execution.Layout
import PatchScript.Proofs.Execution.Batches
import PatchScript.Proofs.Execution.CallDepth
import PatchScript.Proofs.Execution.KeyOrder
import PatchScript.Proofs.Token.Literals
import PatchScript.Proofs.Frames.NearestBinding
import PatchScript.Proofs.Execution.Declarations
import PatchScript.Proofs.Execution.LexicalScope
import PatchScript.Proofs.Execution.Footprint
import PatchScript.Proofs.Execution.LibraryGraph
import PatchScript.Proofs.Evaluate.ObjectSum
import PatchScript.Proofs.Native.SplitJoin
import PatchScript.Proofs.Native.Sorted
import PatchScript.Proofs.Native.Snapshot
import PatchScript.Proofs.Execution.Desugaring
import PatchScript.Proofs.Token.MaximalMunch
import PatchScript.Proofs.Grammar.Identifiers
import PatchScript.Proofs.Native.TextSearch
import PatchScript.Proofs.Execution.Release
import PatchScript.Proofs.Native.CheckedCalls
