/-
The passes of the compiler: verification of the stack code, acquisition of an artifact, lowering, and lowering under
another strategy.
-/
import Graft.Pass
import Graft.Provider

namespace Graft.Pass

/-- check the stack code -/
def verification : Pass where
  info := Info.analysis "verify-bytecode"
  run := do
    let s ← Action.read
    (Action.ofTraced s.routine.verify).mapError .error
    return false

/-- ask a provider for an artifact, unless the metadata has one -/
def acquisition (p : Provider) : Pass where
  info := Info.transform "native-provider" false
  run := do
    let s ← Action.read
    if s.metadata.hasArtifact then
      Action.note .debug s!"'{s.routine.shownName}' already carries a native artifact"
      return false
    else
      match ← Action.lift (p.provide s.routine) with
      | some artifact =>
        Action.note .info s!"Provider '{p.name}' compiled '{s.routine.shownName}' -> '{artifact.symbol}'"
        Action.write { s with metadata := s.metadata.insertArtifact artifact }
        return true
      | none => Action.stop (.error (.providerDeclined s.routine.shownName p.name))

/-- bring the function into a new library with the given lowerer; metadata and symbols keep what it did to them -/
def lowerWith (lowerer : Lowerer) : Action Error State Workbench := do
  let s ← Action.read
  let bench (s : State) : Workbench := ⟨lowerer, s.metadata, Library.new s.routine.shownName, s.symbols⟩
  let (_, b) ← (Workbench.lower s.routine).embed bench fun s b =>
    { s with metadata := b.metadata, symbols := b.symbols }
  return b

/-- the entry of the function that a lowerer brought into a library, and the library after resolution -/
def resolve (b : Workbench) : Action Error State (Option Entry × Library) := do
  let s ← Action.read
  if s.settings.lowerOnly then
    Action.note .debug "no_compile set, skipping executable resolution"
    return (none, b.library)
  else
    let f := s.routine
    let symbol := b.lowerer.entrySymbol f
    let (entry, library) ←
      (Library.executable symbol f.arity s.symbols).embed (fun _ => b.library) fun s _ => s
    Action.note .info s!"Compiled '{f.shownName}' -> '{symbol}' ({entry.origin})"
    return (some entry, library)

/-- lower the function by the strategy in force, and resolve its entry -/
def lowering : Pass where
  info := Info.transform "native-lowering" true
  run := Action.mapError .error do
    let s ← Action.read
    let lowerer := s.strategy.lowerer s.settings
    Action.note .debug
      s!"Lowering '{s.routine.shownName}' with strategy '{s.strategy.name}' ({lowerer.kind.name} lowering)"
    let b ← lowerWith lowerer
    match b.lowerer.environment? with
    | none => Action.stop (.internal (.noEnvironment s.routine.shownName))
    | some environment =>
      let (entry, library) ← resolve b
      Action.update fun s => { s with result? := some ⟨environment, library, entry⟩ }
      return true

/-- run another pass under a strategy -/
def under (strategy : Strategy) (inner : Pass) : Pass where
  info := Info.transform "substitutable-lowering" true
  run := State.withStrategy strategy inner.run

/-- lowering that adopts artifacts -/
def substitutableLowering : Pass := under .substitute lowering

end Graft.Pass
