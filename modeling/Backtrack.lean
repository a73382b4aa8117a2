import Backtrack.Main
import Backtrack.Session
import Backtrack.Proofs.Number
import Backtrack.Proofs.Operator.Chain
import Backtrack.Proofs.Operator.Symbol
import Backtrack.Proofs.Arithmetic.Derivation
import Backtrack.Proofs.Arithmetic.Recognition
import Backtrack.Proofs.Arithmetic.Unrolling
import Backtrack.Proofs.Arithmetic.Printing
import Backtrack.Proofs.Composed.Grammar
import Backtrack.Proofs.Forward
import Backtrack.Proofs.Locality
import Backtrack.Proofs.Operator.LongestMatch
import Backtrack.Proofs.Repetition
import Backtrack.Proofs.Operator.Grouping
import Backtrack.Proofs.Itemized
import Backtrack.Proofs.Shell.RoundTrip
import Backtrack.Proofs.Failing
import Backtrack.Proofs.Provenance
import Backtrack.Proofs.Termination
import Backtrack.Proofs.Shell.Resolution
import Backtrack.Proofs.Ranged.Noted
import Backtrack.Proofs.Ranged.Inside
import Backtrack.Proofs.Console.Trailing
import Backtrack.Proofs.Console.Transcript
import Backtrack.Proofs.Shell.Help
import Backtrack.Proofs.Rounds
import Backtrack.Proofs.Search
import Backtrack.Proofs.Number.Signed
import Backtrack.Proofs.Number.Decimal
import Backtrack.Proofs.Bracketing
import Backtrack.Proofs.Prefixed
import Backtrack.Proofs.Pattern.Anchoring
import Backtrack.Proofs.Shell.Words
import Backtrack.Proofs.Encoding
import Backtrack.Proofs.Flattening
import Backtrack.Proofs.Shell.Construction
import Backtrack.Proofs.Ranged.Covered
import Backtrack.Proofs.Runs
