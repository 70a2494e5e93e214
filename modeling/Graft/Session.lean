/-
What the compilations of one process share unless they are given their own: settings and symbol table.
-/
import Graft.Compiler

namespace Graft

structure Session where
  settings : Settings
  symbols : SymbolTable

namespace Session

/-- the session of a new process; an environment that cannot be read leaves the settings at their defaults -/
def start (env : String → Option String) : Traced Session :=
  match Settings.ofEnvironment env with
  | .ok settings => ⟨⟨settings, NameMap.empty⟩, []⟩
  | .error e => ⟨⟨{}, NameMap.empty⟩, [⟨.warn, s!"{e.message}; using default settings"⟩]⟩

/-- a compiler without provider -/
def compiler (s : Session) : Compiler := { settings := s.settings }

/-- the state of a compilation with given settings on the session's table -/
def state (s : Session) (f : Routine) (settings : Settings) : State := State.new f settings s.symbols NameMap.empty

end Session

end Graft
