import Offside.Expectation
import Offside.Main
import Offside.Proofs.Delivery
import Offside.Proofs.Foresight
import Offside.Proofs.Readings
import Offside.Proofs.Batch
import Offside.Proofs.BraceSyntax
import Offside.Proofs.OutlineRun
import Offside.Proofs.Glyphs
import Offside.Proofs.BracketWord
import Offside.Proofs.Rereading
import Offside.Proofs.ReadBack
import Offside.Proofs.Calls
import Offside.Proofs.Laziness
import Offside.Proofs.Forfeit
import Offside.Proofs.Placement
import Offside.Proofs.Padding
import Offside.Proofs.Tails
import Offside.Proofs.Consumption
import Offside.Proofs.Invocations
import Offside.Proofs.Overrides
import Offside.Proofs.Endings
import Offside.Proofs.LineShape
import Offside.Proofs.Escapes
import Offside.Proofs.Documents
import Offside.Proofs.NormalForm
import Offside.Proofs.Redaction
import Offside.Proofs.RedactedRun
import Offside.Proofs.LineEnds
import Offside.Proofs.Perusal
import Offside.Proofs.Columns
import Offside.Proofs.Sources
import Offside.Proofs.UnknownKeys
import Offside.Proofs.Precedence
import Offside.Proofs.LevelCalls
import Offside.Proofs.Widths
import Offside.Proofs.ClosedComments
import Offside.Proofs.Indents
import Offside.Proofs.Handover
import Offside.Proofs.Course
import Offside.Proofs.FaultLines
import Offside.Proofs.Renumbering
import Offside.Proofs.BlankLines
import Offside.Proofs.NestedIndents
import Offside.Proofs.Cuts
import Offside.Proofs.Registers
import Offside.Proofs.TrackerCalls
