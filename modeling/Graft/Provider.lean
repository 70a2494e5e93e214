/-
Providers of native bodies: compilers outside this library that may have an artifact for a function.

`Precompiled` is the provider whose bodies were compiled ahead of time. It has one body for each short name, and gives
it only to functions with the arity it was compiled for.
-/
import Graft.Metadata
import Graft.Routine
import Graft.Trace

namespace Graft

structure Provider where
  name : String
  /-- the artifact for a function, if there is one -/
  provide : Routine → Traced (Option Artifact)

/-- native bodies by the short name of their function -/
abbrev Precompiled := NameMap (Address × UInt64)

namespace Precompiled

/-- make a body available for functions of a name and an arity -/
def register (p : Precompiled) (name : String) (address : Address) (arity : UInt64) : Precompiled :=
  p.insert name (address, arity)

def provide (p : Precompiled) (f : Routine) : Traced (Option Artifact) :=
  match p.find? f.name with
  | none => ⟨none, [⟨.debug, s!"No precompiled body for '{f.shownName}'"⟩]⟩
  | some (address, arity) =>
    if arity = f.arity then ⟨some ⟨address, f.symbol⟩, []⟩
    else
      ⟨none, [⟨.warn, s!"Precompiled '{f.name}' takes {arity.toNat} arguments, descriptor has {f.arity.toNat}"⟩]⟩

def provider (p : Precompiled) : Provider := ⟨"precompiled", p.provide⟩

end Precompiled

end Graft
