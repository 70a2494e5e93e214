/-
Code libraries: modules of lowered code, closed by finalization, and the resolution of symbols to entries.

A module declares symbols and defines some of them; it also holds the environment objects of its functions. A library
takes modules until it is finalized. Finalization checks, unless that was switched off, that every symbol some module
declares is defined by some module. A symbol resolves to the first definition in the library, or else to the table of
native symbols.
-/
import Graft.Entry
import Graft.Routine
import Graft.SymbolTable

namespace Graft

/-- context object that is emitted once for each function -/
structure Environment where
  symbol : String
  function : String
  arity : UInt64
deriving DecidableEq

structure Module where
  name : String
  declared : NameSet
  functions : List Body
  environments : List Environment
deriving DecidableEq

namespace Module

def new (name : String) : Module := ⟨name, NameMap.empty, [], []⟩

/-- declare a symbol that is expected to be defined -/
def declare (m : Module) (symbol : String) : Module := { m with declared := m.declared.add symbol }

/-- define a function under its symbol, which is declared by that -/
def define (m : Module) (b : Body) : Module := { m.declare b.symbol with functions := m.functions ++ [b] }

def addEnvironment (m : Module) (e : Environment) : Module := { m with environments := m.environments ++ [e] }

/-- the first definition of a symbol -/
def function? (m : Module) (symbol : String) : Option Body := m.functions.find? (·.symbol == symbol)

end Module

structure Library where
  name : String
  modules : List Module
  finalized : Bool
  /-- whether finalization checks that declared symbols are defined -/
  verifies : Bool
deriving DecidableEq

namespace Library

def new (name : String) : Library := ⟨name, [], false, true⟩

/-- an empty module named within the library -/
def newModule (l : Library) (name : String) : Module := Module.new (l.name ++ "::" ++ name)

/-- number of instructions of all functions -/
def instructionCount (l : Library) : Nat := ((l.modules.flatMap (·.functions)).flatMap (·.code)).length

/-- the first definition of a symbol -/
def function? (l : Library) (symbol : String) : Option Body := l.modules.findSome? (·.function? symbol)

def environment? (l : Library) (symbol : String) : Option Environment :=
  (l.modules.flatMap (·.environments)).find? (·.symbol == symbol)

/-- symbols that some module declares and no module defines -/
def undefinedSymbols (l : Library) : NameSet :=
  NameSet.ofNames ((l.modules.flatMap (·.declared.names)).filter fun s => (l.function? s).isNone)

/-- take a module over; refused once the library is finalized -/
def addModule (m : Module) : Action Error Library Unit := do
  let l ← Action.read
  if l.finalized then Action.stop (.codegen (.moduleAfterFinalization m.name l.name))
  else
    Action.note .debug
      s!"Library '{l.name}': adding module '{m.name}' ({m.functions.length} functions, {m.declared.size} declarations)"
    Action.write { l with modules := l.modules ++ [m] }

/-- switch the check of declared symbols off, for bodies that come from outside the library -/
def skipVerification : Action Error Library Unit := do
  let l ← Action.read
  if l.verifies then Action.note .warn s!"Library '{l.name}': declared-symbol verification disabled"
  Action.write { l with verifies := false }

/-- close the library; nothing happens when it is closed already -/
def finalize : Action Error Library Unit := do
  let l ← Action.read
  if l.finalized then return
  else if l.verifies && !l.undefinedSymbols.isEmpty then
    Action.stop (.codegen (.undefinedSymbols l.name l.undefinedSymbols.names))
  else
    Action.write { l with finalized := true }
    Action.note .info
      s!"Library '{l.name}' finalized: {l.modules.length} modules, {l.instructionCount} instructions"

/-- close the library and resolve a symbol -/
def executable (symbol : String) (arity : UInt64) (table : SymbolTable) : Action Error Library Entry := do
  finalize
  let l ← Action.read
  match l.function? symbol with
  | some b =>
    Action.note .debug s!"Resolved '{symbol}' to library-lowered code"
    return .lowered b
  | none =>
    match table.find? symbol with
    | some address =>
      Action.note .debug s!"Resolved '{symbol}' to native symbol at {address.text}"
      return .native symbol address arity
    | none => Action.stop (.codegen (.unresolvedSymbol symbol l.name))

end Library

end Graft
