/-
The stack machine: what stack code means, said without lowering it.

`StackOp.act` is what one instruction does to the operand stack. `StackMachine.run` goes through the code until an
instruction ends the run: the first return ends it with the top of the stack, and a binary operator that has no value
for its operands leaves the machine stuck there. `Routine.meaning` is the run of a whole body from the empty stack.

Code that finds no operand, no argument or no return has the outcome `malformed`. Verified code never has it: that is
part of what `Graft.Proofs.Routine.Simulation` says.
-/
import Graft.Routine

namespace Graft

namespace StackMachine

/-- how a run of stack code ends -/
inductive Outcome where
  | returned (value : Int64)
  /-- a binary operator has no value for the operands it found -/
  | stuck (op : Operator)
  /-- an operand, an argument or the return is not there -/
  | malformed
deriving DecidableEq

/-- what an instruction does: the run goes on with another stack, or it ends -/
inductive Move where
  | next (stack : List Int64)
  | halt (outcome : Outcome)

end StackMachine

open StackMachine

/-- one instruction on the operand stack, whose top is its first element -/
def StackOp.act (args stack : List Int64) : StackOp → Move
  | .load v => .next (v :: stack)
  | .arg i =>
    match args[i.toNat]? with
    | some v => .next (v :: stack)
    | none => .halt .malformed
  | .binary op =>
    match stack with
    | right :: left :: rest =>
      match op.apply left right with
      | some v => .next (v :: rest)
      | none => .halt (.stuck op)
    | _ => .halt .malformed
  | .neg =>
    match stack with
    | top :: rest => .next (-top :: rest)
    | [] => .halt .malformed
  | .ret =>
    match stack with
    | top :: _ => .halt (.returned top)
    | [] => .halt .malformed

namespace StackMachine

/-- run the code from a given stack on -/
def run (args : List Int64) : (stack : List Int64) → List StackOp → Outcome
  | _, [] => .malformed
  | stack, op :: rest =>
    match op.act args stack with
    | .next stack => run args stack rest
    | .halt outcome => outcome

end StackMachine

/-- what a body computes from its arguments -/
def Routine.meaning (f : Routine) (args : List Int64) : Outcome := run args [] f.body

end Graft
