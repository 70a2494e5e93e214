/-
Lowering of stack code to three-address code, one instruction for one instruction.

The operand stack becomes a stack of temporaries: each value that is pushed goes to a temporary of its own, in the order
of their numbers. Lowering ends at the first return.
-/
import Graft.Routine.Verify

namespace Graft

/-- the instruction for `op` at temporary `dest`, and the temporaries on the stack after it -/
def StackOp.lower (arity : UInt64) (dest : Temp) (stack : List Temp) : StackOp → Except BodyFault (Instr × List Temp)
  | .load v => .ok (.const dest v, dest :: stack)
  | .arg i =>
    if i.toNat < arity.toNat then .ok (.arg dest i, dest :: stack) else .error (.argumentBeyondArity i arity)
  | .binary op =>
    match stack with
    | right :: left :: rest => .ok (.binary op dest left right, dest :: rest)
    | _ => .error .stackUnderflow
  | .neg =>
    match stack with
    | source :: rest => .ok (.neg dest source, dest :: rest)
    | [] => .error .stackUnderflow
  | .ret =>
    match stack with
    | source :: rest => .ok (.ret source, rest)
    | [] => .error .stackUnderflow

namespace Routine

/-- lower from `offset` on; `next` is the first temporary not in use, `code` what was emitted so far, the
newest first -/
def lowerFrom (arity : UInt64) : (offset : Nat) → (next : Temp) → (stack : List Temp) → (code : List Instr) →
    List StackOp → Except (Nat × BodyFault) (List Instr)
  | offset, _, _, _, [] => .error (offset, .noReturn)
  | offset, next, stack, code, op :: rest =>
    match op.lower arity next stack with
    | .error fault => .error (offset, fault)
    | .ok (i, stack) =>
      if op = .ret then .ok (i :: code).reverse
      else lowerFrom arity (offset + 1) (next + .ofNat op.pushes) stack (i :: code) rest

def lowered (f : Routine) : Except (Nat × BodyFault) (List Instr) := lowerFrom f.arity 0 0 [] [] f.body

/-- the three-address code of the body -/
def code (f : Routine) : Except Error (List Instr) := f.lowered.mapError f.invalid

/-- the instructions that lowering looks at -/
def visited (f : Routine) : List StackOp :=
  match f.lowered with
  | .ok code => f.body.take code.length
  | .error (offset, _) => f.body.take (offset + 1)

/-- lower the body, and log each instruction and what is left out after the return -/
def lower (f : Routine) : Traced (Except Error (List Instr)) :=
  let lines := f.visited.zipIdx.map fun (op, k) => (⟨.trace, s!"  [{k}] {op.text}"⟩ : Event)
  match f.code with
  | .ok code =>
    let left := f.body.length - code.length
    ⟨.ok code, if left = 0 then lines else
      lines ++ [⟨.debug, s!"'{f.shownName}': skipping {left} unreachable instructions after return"⟩]⟩
  | .error e => ⟨.error e, lines⟩

end Routine

end Graft
