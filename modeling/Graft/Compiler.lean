/-
The compiler: which pipeline compiles a function, and calls of what was compiled.

The native pipeline comes first. When the provider declines, the function is compiled anew on the standard pipeline,
from the same request; any other error is final. A compilation is an action on the symbol table that all compilations
share.
-/
import Graft.Pass.Standard

namespace Graft

/-- the pipeline that compiled a function -/
inductive Route where
  | native
  | standard
deriving DecidableEq

def Route.name : Route → String
  | .native => "native"
  | .standard => "default"

structure Compiled where
  route : Route
  /-- the state at the end, without the result -/
  state : State
  result : Lowered

namespace Compiled

/-- call the compiled function -/
def call (image : Image) (c : Compiled) (args : List Int64) : Traced (Except Fault Int64) :=
  match c.result.entry with
  | some e => e.call image args
  | none => pure (.error (.error (.execution (.nothingToCall c.state.routine.shownName))))

end Compiled

structure Compiler where
  settings : Settings
  provider? : Option Provider := none

namespace Compiler

/-- acquisition from the provider, when there is one and artifacts are adopted -/
def acquisitions (c : Compiler) : List Pass :=
  if c.settings.adoptArtifacts then c.provider?.toList.map Pass.acquisition else []

def nativePipeline (c : Compiler) : Pipeline :=
  ⟨"native", Pass.verification :: c.acquisitions ++ [Pass.substitutableLowering]⟩

def standardPipeline : Pipeline := ⟨"default", [Pass.verification, Pass.lowering]⟩

/-- run a pipeline on a new state over the shared table; gives the state reached -/
def attempt (c : Compiler) (p : Pipeline) (f : Routine) (metadata : Metadata) :
    Action Fault SymbolTable (Except Fault Unit × State) :=
  p.run.attempt.embed (fun table => State.new f c.settings table metadata) fun _ s => s.symbols

/-- take the result out of the state that a pipeline left -/
def finish (route : Route) (s : State) : Action Fault SymbolTable Compiled := do
  match s.result? with
  | none => Action.stop (.error (.internal (.noResult route.name s.routine.shownName)))
  | some result =>
    Action.note .info s!"'{s.routine.shownName}' compiled by the {route.name} pipeline"
    return ⟨route, { s with result? := none }, result⟩

/-- compile a function with the metadata of its request -/
def compile (c : Compiler) (f : Routine) (metadata : Metadata) : Action Fault SymbolTable Compiled := do
  match ← c.attempt c.nativePipeline f metadata with
  | (.ok _, s) => finish .native s
  | (.error (.error e), _) =>
    if e.allowsFallback then
      Action.note .warn s!"{e.message}; falling back to the default pipeline"
      match ← c.attempt standardPipeline f metadata with
      | (.ok _, s) => finish .standard s
      | (.error fault, _) => Action.stop fault
    else Action.stop (.error e)
  | (.error .crash, _) => Action.stop .crash

end Compiler

end Graft
