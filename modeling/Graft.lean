import Graft.Main
import Graft.Session
import Graft.Proofs.Routine.Simulation
import Graft.Proofs.Routine.Arithmetic
import Graft.Proofs.Pass.Override
import Graft.Proofs.Compiler.Isolation
import Graft.Proofs.Compiler.Call
import Graft.Proofs.Compiler.LowerOnly
import Graft.Proofs.Library.Resolution
import Graft.Proofs.Codec.RoundTrip
import Graft.Proofs.Metadata.Artifact
import Graft.Proofs.Pass.Repetition
import Graft.Proofs.Pass.Failure
import Graft.Proofs.Routine.Agreement
import Graft.Proofs.Routine.Shape
import Graft.Proofs.Lowerer.Run
import Graft.Proofs.Lowerer.Scaffold
import Graft.Proofs.SymbolTable.History
import Graft.Proofs.Metadata.History
import Graft.Proofs.Library.Undefined
import Graft.Proofs.Routine.Symbols
import Graft.Proofs.Lowerer.Reuse
import Graft.Proofs.Compiler.ShortName
