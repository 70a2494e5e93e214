/-
Three-address code: each instruction sets one temporary from constants, arguments or other temporaries, or returns one.
-/
import Graft.Operator

namespace Graft

/-- temporaries are numbered -/
abbrev Temp := UInt32

inductive Instr where
  | const (dest : Temp) (value : Int64)
  | arg (dest : Temp) (index : UInt16)
  | binary (op : Operator) (dest left right : Temp)
  | neg (dest source : Temp)
  | ret (source : Temp)
deriving DecidableEq

namespace Instr

/-- the instruction as it is written in listings -/
def text : Instr → String
  | .const d v => s!"%{d.toNat} = const {v.toInt}"
  | .arg d i => s!"%{d.toNat} = arg {i.toNat}"
  | .binary op d a b => s!"%{d.toNat} = {op.name} %{a.toNat}, %{b.toNat}"
  | .neg d a => s!"%{d.toNat} = neg %{a.toNat}"
  | .ret a => s!"ret %{a.toNat}"

end Instr

end Graft
