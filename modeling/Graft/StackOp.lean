/-
Instructions of the stack code.

An instruction takes `pops` operands from the operand stack and leaves `pushes` results on it. `ret` ends the run with
the top of the stack; what follows it is never reached.
-/
import Graft.Operator

namespace Graft

inductive StackOp where
  /-- push a constant -/
  | load (value : Int64)
  /-- push the argument at an index -/
  | arg (index : UInt16)
  /-- pop the right operand, pop the left operand, push the result -/
  | binary (op : Operator)
  /-- negate the top of the stack -/
  | neg
  /-- return the top of the stack -/
  | ret
deriving DecidableEq

namespace StackOp

def pops : StackOp → Nat
  | .load _ | .arg _ => 0
  | .binary _ => 2
  | .neg | .ret => 1

def pushes : StackOp → Nat
  | .load _ | .arg _ | .binary _ | .neg => 1
  | .ret => 0

/-- the instruction as it is written in listings and messages -/
def text : StackOp → String
  | .load v => s!"LOAD_CONST {v.toInt}"
  | .arg i => s!"LOAD_ARG {i.toNat}"
  | .binary op => s!"BINARY_{op.name.toUpper}"
  | .neg => "UNARY_NEG"
  | .ret => "RETURN"

end StackOp

end Graft
