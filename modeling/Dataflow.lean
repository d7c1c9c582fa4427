import Dataflow.Main
import Dataflow.Proofs.Endings
import Dataflow.Proofs.DispatchLimit
import Dataflow.Proofs.Network.Closure
import Dataflow.Proofs.Network.Confluence
import Dataflow.Proofs.CallGraph
import Dataflow.Proofs.Accounting
import Dataflow.Proofs.DispatchOrder
import Dataflow.Proofs.Parsing
import Dataflow.Proofs.WellFormed
import Dataflow.Proofs.Emission
import Dataflow.Proofs.Decoding
import Dataflow.Proofs.FaultLines
import Dataflow.Proofs.Safety
import Dataflow.Proofs.Accumulation
import Dataflow.Proofs.Relevance
import Dataflow.Proofs.Renaming
import Dataflow.Proofs.Silencing
import Dataflow.Proofs.CallText
import Dataflow.Proofs.InstructionLines
import Dataflow.Proofs.Changes
import Dataflow.Proofs.Replay
import Dataflow.Proofs.LifeCycle
import Dataflow.Proofs.Grammar
import Dataflow.Proofs.FirstFault
import Dataflow.Proofs.Reprinting
import Dataflow.Proofs.BlankLines
import Dataflow.Proofs.Layout
import Dataflow.Proofs.Lines
import Dataflow.Proofs.FileText
import Dataflow.Proofs.BareRuns
import Dataflow.Proofs.Rendering
import Dataflow.Proofs.Numerals
import Dataflow.Proofs.Flags
import Dataflow.Proofs.Printing
import Dataflow.Proofs.WritableLimits
import Dataflow.Proofs.Answers
import Dataflow.Proofs.CleanStops
import Dataflow.Proofs.Eligibility
import Dataflow.Proofs.JsonText
import Dataflow.Proofs.StateDumps
import Dataflow.Proofs.Addition
import Dataflow.Proofs.NumeralGrammar
import Dataflow.Proofs.Operands
import Dataflow.Proofs.StoreHistory
import Dataflow.Proofs.Encoding
import Dataflow.Proofs.Resolution
