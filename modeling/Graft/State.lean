/-
The state of one compilation, and overrides of its strategy.

The state goes from pass to pass. The symbol table in it is the one that compilations share.

`withStrategy` runs an action under another strategy and puts the former one back whatever the action did and however it
stopped.
-/
import Graft.Strategy

namespace Graft

/-- what lowering leaves behind -/
structure Lowered where
  environment : Environment
  library : Library
  /-- absent when only lowering was asked for -/
  entry : Option Entry
deriving DecidableEq

structure State where
  routine : Routine
  metadata : Metadata
  settings : Settings
  strategy : Strategy
  symbols : SymbolTable
  result? : Option Lowered
deriving DecidableEq

namespace State

/-- the state in which a compilation starts -/
def new (routine : Routine) (settings : Settings) (symbols : SymbolTable) (metadata : Metadata) : State :=
  { routine, metadata, settings, strategy := .standard, symbols, result? := none }

/-- put a strategy in force; gives the one it replaces -/
def replaceStrategy (s : Strategy) : Action Fault State Strategy := do
  let state ← Action.read
  Action.write { state with strategy := s }
  return state.strategy

/-- begin an override; gives the strategy to put back -/
def install (s : Strategy) : Action Fault State Strategy := do
  let previous ← replaceStrategy s
  let state ← Action.read
  Action.note .debug s!"Strategy override for '{state.routine.shownName}': {previous.name} -> {s.name}"
  return previous

/-- end an override -/
def restore (previous : Strategy) : Action Fault State Unit := do
  let overridden ← replaceStrategy previous
  let state ← Action.read
  Action.note .debug s!"Strategy restored for '{state.routine.shownName}': {overridden.name} -> {previous.name}"

/-- run an action under a strategy -/
def withStrategy {α : Type} (s : Strategy) (x : Action Fault State α) : Action Fault State α := do
  let previous ← install s
  let r ← x.attempt
  restore previous
  Action.ofExcept r

end State

end Graft
