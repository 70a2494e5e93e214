/-
Verification of stack code: one walk with the depth of the operand stack, up to the first return.

`Routine.reachable` is the walk. It gives the number of instructions up to the first return, or the first fault with its
offset; a body that runs out without a return is faulty at its end.
-/
import Graft.Routine
import Graft.Error
import Graft.Trace

namespace Graft

/-- what is wrong with an instruction that finds `depth` values on the stack -/
def StackOp.fault? (arity : UInt64) (depth : Nat) : StackOp → Option BodyFault
  | .arg i => if i.toNat < arity.toNat then none else some (.noArgument i)
  | op => if op.pops ≤ depth then none else some (.tooFewOperands op depth)

namespace Routine

/-- walk from `offset` on, with `depth` values on the stack -/
def walk (arity : UInt64) : (offset depth : Nat) → List StackOp → Except (Nat × BodyFault) Nat
  | offset, _, [] => .error (offset, .noReturn)
  | offset, depth, op :: rest =>
    match op.fault? arity depth with
    | some fault => .error (offset, fault)
    | none =>
      if op = .ret then .ok (offset + 1)
      else walk arity (offset + 1) (depth - op.pops + op.pushes) rest

/-- the error for a fault of the body at an offset -/
def invalid (f : Routine) (p : Nat × BodyFault) : Error := .invalidBytecode f.shownName p.1 p.2

/-- number of instructions up to the first return -/
def reachable (f : Routine) : Except Error Nat :=
  if f.body.isEmpty then .error (f.invalid (0, .emptyBody))
  else (walk f.arity 0 0 f.body).mapError f.invalid

/-- check the body, and log that it was found right -/
def verify (f : Routine) : Traced (Except Error Unit) :=
  match f.reachable with
  | .ok n => ⟨.ok (), [⟨.debug, s!"'{f.shownName}' verified ({n} instructions reachable)"⟩]⟩
  | .error e => ⟨.error e, []⟩

end Routine

end Graft
