/-
Lowering strategies: which lowerer the lowering pass works with.
-/
import Graft.Lowerer
import Graft.Settings

namespace Graft

inductive Strategy where
  /-- lower the stack code -/
  | standard
  /-- adopt an artifact when the settings say so, otherwise as `standard` -/
  | substitute
deriving DecidableEq

namespace Strategy

def name : Strategy → String
  | .standard => "default"
  | .substitute => "substitute"

/-- the kind of lowerer the strategy stands for -/
def kind (s : Strategy) (settings : Settings) : Lowerer.Kind :=
  match s with
  | .standard => .bytecode
  | .substitute => if settings.adoptArtifacts then .artifact else .bytecode

/-- a new lowerer of that kind -/
def lowerer (s : Strategy) (settings : Settings) : Lowerer := { kind := s.kind settings }

end Strategy

end Graft
