/-
Lowerers: the objects that bring a function into a library.

Every lowerer goes through the same stages. It emits the environment object into a new module, declares the body's
symbol there, brings the body about, and hands the module over to the library. Only the third step depends on the kind:
a lowerer of bytecode defines the body by its three-address code; a lowerer of artifacts takes the artifact from the
metadata and registers its address, and the body stays undefined in the library.

The steps are actions on a workbench: the lowerer itself, the metadata, the library and the symbol table.
-/
import Graft.Library
import Graft.Metadata
import Graft.Routine.Lower

namespace Graft

/-- how far a lowering got -/
inductive Stage where
  | start
  | environmentReady
  | instructionsLowered
  | artifactBound
  | finalized
deriving DecidableEq

def Stage.name : Stage → String
  | .start => "start"
  | .environmentReady => "environment-ready"
  | .instructionsLowered => "instructions-lowered"
  | .artifactBound => "artifact-bound"
  | .finalized => "finalized"

/-- how the body comes about -/
inductive Lowerer.Kind where
  | bytecode
  | artifact
deriving DecidableEq

def Lowerer.Kind.name : Lowerer.Kind → String
  | .bytecode => "default"
  | .artifact => "artifact"

structure Lowerer where
  kind : Lowerer.Kind
  /-- the module in work -/
  module? : Option Module := none
  /-- the environment object emitted last -/
  environment? : Option Environment := none
  stage : Stage := .start
  /-- the symbol of the artifact adopted last -/
  bound? : Option String := none
deriving DecidableEq

/-- the symbol under which the function is reached -/
def Lowerer.entrySymbol (l : Lowerer) (f : Routine) : String :=
  match l.kind with
  | .bytecode => f.symbol
  | .artifact => l.bound?.getD f.symbol

/-- the environment object of a function -/
def Routine.environment (f : Routine) : Environment := ⟨f.environmentSymbol, f.shownName, f.arity⟩

structure Workbench where
  lowerer : Lowerer
  metadata : Metadata
  library : Library
  symbols : SymbolTable

namespace Workbench

def onLibrary {α : Type} (x : Action Error Library α) : Action Error Workbench α :=
  x.focus (·.library) fun b l => { b with library := l }

def onSymbols {α : Type} (x : Action Error SymbolTable α) : Action Error Workbench α :=
  x.focus (·.symbols) fun b t => { b with symbols := t }

def onMetadata {α : Type} (x : Action Error Metadata α) : Action Error Workbench α :=
  x.focus (·.metadata) fun b m => { b with metadata := m }

def setModule (m : Option Module) : Action Error Workbench Unit :=
  Action.update fun b => { b with lowerer := { b.lowerer with module? := m } }

/-- enter a stage -/
def advance (f : Routine) (stage : Stage) : Action Error Workbench Unit := do
  let b ← Action.read
  Action.note .trace s!"'{f.shownName}': {b.lowerer.stage.name} -> {stage.name}"
  Action.write { b with lowerer := { b.lowerer with stage } }

/-- begin a module with the environment object of the function -/
def emitEnvironment (f : Routine) : Action Error Workbench Unit := do
  Action.note .debug s!"Emitting environment object '{f.environmentSymbol}'"
  Action.update fun b =>
    let module := (b.library.newModule f.shownName).addEnvironment f.environment
    { b with lowerer := { b.lowerer with module? := some module, environment? := some f.environment } }
  advance f .environmentReady

/-- the module in work -/
def currentModule (f : Routine) : Action Error Workbench Module := do
  let b ← Action.read
  match b.lowerer.module? with
  | some m => return m
  | none => Action.stop (.internal (.noModule f.shownName))

/-- declare the body's symbol -/
def declare (f : Routine) : Action Error Workbench Unit := do
  Action.note .trace s!"Declaring function symbol '{f.symbol}'"
  let m ← currentModule f
  setModule (some (m.declare f.symbol))

/-- define a body in the module in work -/
def define (f : Routine) (body : Body) : Action Error Workbench Unit := do
  let m ← currentModule f
  setModule (some (m.define body))

/-- hand the module over to the library; it is given away even when the library refuses it -/
def handOver (f : Routine) : Action Error Workbench Unit := do
  let b ← Action.read
  match b.lowerer.module? with
  | some m =>
    setModule none
    onLibrary (Library.addModule m)
    advance f .finalized
  | none => Action.stop (.internal (.moduleHandedOver f.shownName))

/-- define the body by its three-address code -/
def lowerBytecode (f : Routine) : Action Error Workbench Unit := do
  declare f
  let code ← Action.ofTraced f.lower
  Action.note .debug
    s!"Lowered '{f.shownName}': {f.body.length} bytecode instructions -> {code.length} native instructions"
  define f ⟨f.symbol, f.arity, code⟩
  advance f .instructionsLowered

/-- bind the body to the artifact in the metadata -/
def bindArtifact (f : Routine) : Action Error Workbench Unit := do
  declare f
  onLibrary Library.skipVerification
  let artifact ← onMetadata (Metadata.removeArtifact f.shownName)
  if artifact.symbol ≠ f.symbol then
    Action.note .warn s!"Artifact symbol '{artifact.symbol}' differs from declared symbol '{f.symbol}'"
  let _ ← onSymbols (SymbolTable.register artifact.symbol artifact.address)
  Action.note .info
    s!"Bound '{f.shownName}' to native artifact '{artifact.symbol}' at {artifact.address.text}"
  Action.update fun b => { b with lowerer := { b.lowerer with bound? := some artifact.symbol } }
  advance f .artifactBound

/-- bring the body about -/
def lowerBody (f : Routine) : Action Error Workbench Unit := do
  let b ← Action.read
  match b.lowerer.kind with
  | .bytecode => lowerBytecode f
  | .artifact => bindArtifact f

/-- bring the whole function into the library -/
def lower (f : Routine) : Action Error Workbench Unit := do
  emitEnvironment f
  lowerBody f
  handOver f

end Workbench

end Graft
