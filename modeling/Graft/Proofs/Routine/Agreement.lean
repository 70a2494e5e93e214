/-
Verification and lowering refuse the same bodies, at the same place.

Verification counts the values on the operand stack, lowering keeps the temporaries that stand for them. An instruction
that is faulty for the count is refused by the other (`lower_of_fault?_eq_some`), in the words that
`BodyFault.whenLowered` gives for the fault. So both stop at the first faulty instruction, or at the end of a body
without a return (`emission_of_walk_error`); the case without a fault is `emission_of_walk`.

`verify_iff_lower` has both cases for whole routines, and what follows for the pass that lowers them.
-/
import Mathlib.Tactic
import Graft.Proofs.Pass.Effect

namespace Graft

variable {arity : UInt64}

/-- what lowering says where verification finds a fault -/
def BodyFault.whenLowered (arity : UInt64) : BodyFault → BodyFault
  | .noArgument i => .argumentBeyondArity i arity
  | .tooFewOperands _ _ => .stackUnderflow
  | .emptyBody => .noReturn
  | fault => fault

/-- a faulty instruction is not lowered -/
theorem StackOp.lower_of_fault?_eq_some {stack : List Temp} {op : StackOp} {fault : BodyFault} (dest : Temp)
    (h : op.fault? arity stack.length = some fault) :
    op.lower arity dest stack = .error (fault.whenLowered arity) := by
  cases op with
  | load v => simp [fault?, pops] at h
  | arg i =>
    simp only [fault?] at h
    split_ifs at h with hi
    cases h
    simp only [lower, if_neg hi]
    rfl
  | binary op =>
    rcases stack with _ | ⟨right, _ | ⟨left, rest⟩⟩
    · obtain rfl : .tooFewOperands (.binary op) 0 = fault := by simpa [fault?, pops] using h
      rfl
    · -- the right operand is there, and it is the second pop that fails
      obtain rfl : .tooFewOperands (.binary op) 1 = fault := by simpa [fault?, pops] using h
      rfl
    · simp [fault?, pops] at h
  | neg =>
    rcases stack with _ | ⟨source, rest⟩
    · obtain rfl : .tooFewOperands .neg 0 = fault := by simpa [fault?, pops] using h
      rfl
    · simp [fault?, pops] at h
  | ret =>
    rcases stack with _ | ⟨source, rest⟩
    · obtain rfl : .tooFewOperands .ret 0 = fault := by simpa [fault?, pops] using h
      rfl
    · simp [fault?, pops] at h

namespace Routine

/-- the walk over a body stops at a faulty instruction, or goes on after one that is right and does not return -/
theorem walk_cons_eq_error {offset depth : Nat} {op : StackOp} {rest : List StackOp} {p : Nat × BodyFault}
    (h : walk arity offset depth (op :: rest) = .error p) :
    (∃ fault, op.fault? arity depth = some fault ∧ p = (offset, fault)) ∨
      op.fault? arity depth = none ∧ op ≠ .ret ∧
        walk arity (offset + 1) (depth - op.pops + op.pushes) rest = .error p := by
  rw [walk] at h
  cases hf : op.fault? arity depth with
  | some fault =>
    simp only [hf] at h
    cases h
    exact Or.inl ⟨fault, rfl, rfl⟩
  | none =>
    simp only [hf] at h
    split at h
    · cases h
    · rename_i hret
      exact Or.inr ⟨rfl, hret, h⟩

/-- code that the walk refuses at an offset is refused there by lowering, from any temporaries of the same depth -/
theorem emission_of_walk_error {offset k : Nat} {stack : List Temp} {body : List StackOp} {fault : BodyFault}
    (h : walk arity offset stack.length body = .error (k, fault)) :
    emission arity offset stack body = .error (k, fault.whenLowered arity) := by
  induction body generalizing offset stack with
  | nil =>
    cases h
    rfl
  | cons op rest ih =>
    rcases walk_cons_eq_error h with ⟨found, hf, hp⟩ | ⟨hf, hret, hrest⟩
    · cases hp
      exact emission_cons_of_error (StackOp.lower_of_fault?_eq_some _ hf) rest
    · obtain ⟨i, after, hlow, hlen⟩ := StackOp.lower_of_fault?_eq_none (.ofNat offset) hf
      rw [← hlen] at hrest
      rw [emission_cons hlow, if_neg hret, ih hrest]
      rfl

/-! ## Whole routines -/

variable {f : Routine}

/-- a body that verification refuses has no three-address code, for the corresponding reason at the same offset -/
theorem code_of_verify_error {e : Error} (h : f.verify.value = .error e) :
    ∃ offset fault, e = .invalidBytecode f.shownName offset fault ∧
      f.code = .error (.invalidBytecode f.shownName offset (fault.whenLowered f.arity)) := by
  rw [value_verify, reachable] at h
  split at h
  · -- lowering has no word for an empty body: it finds the end without a return
    rename_i hempty
    cases h
    have hnil : f.body = [] := List.isEmpty_iff.1 hempty
    exact ⟨0, .emptyBody, rfl, by rw [code, lowered, hnil]; rfl⟩
  · cases hw : walk f.arity 0 0 f.body with
    | ok n =>
      rw [hw] at h
      cases h
    | error p =>
      rw [hw] at h
      cases h
      have hwalk : walk f.arity 0 ([] : List Temp).length f.body = .error (p.1, p.2) := hw
      have hlowered := emission_of_walk_error hwalk
      rw [← lowered_eq_emission] at hlowered
      exact ⟨p.1, p.2, rfl, by rw [code, hlowered]; rfl⟩

/-- verification accepts exactly the bodies that have three-address code -/
theorem verify_eq_ok_iff : f.verify.value = .ok () ↔ ∃ code, f.code = .ok code := by
  constructor
  · intro h
    obtain ⟨code, -, hcode⟩ := code_of_verify h
    exact ⟨code, hcode⟩
  · rintro ⟨code, hcode⟩
    cases hver : f.verify.value with
    | ok _ => rfl
    | error e =>
      obtain ⟨offset, fault, -, herror⟩ := code_of_verify_error hver
      rw [hcode] at herror
      cases herror

/-- **Verification and lowering agree.** Verification accepts a routine exactly when lowering gives code for it. When it
does not, both refuse it with an error that names the routine and the same offset, and for corresponding reasons. So the
pass that lowers stack code ends, whatever else is in the state, exactly when verification accepts the routine. -/
theorem verify_iff_lower (f : Routine) :
    (f.verify.value = .ok () ↔ ∃ code, f.lower.value = .ok code) ∧
    (∀ e e', f.verify.value = .error e → f.lower.value = .error e' →
      ∃ offset fault, e = .invalidBytecode f.shownName offset fault ∧
        e' = .invalidBytecode f.shownName offset (fault.whenLowered f.arity)) ∧
    ∀ s : State, s.routine = f → s.strategy.kind s.settings = .bytecode →
      ((∃ changed, (Pass.lowering.run.result s).1 = .ok changed) ↔ f.verify.value = .ok ()) := by
  rw [value_lower]
  refine ⟨verify_eq_ok_iff, ?_, ?_⟩
  · intro e e' hver hlower
    obtain ⟨offset, fault, rfl, hcode⟩ := code_of_verify_error hver
    rw [hlower] at hcode
    cases hcode
    exact ⟨offset, fault, rfl, rfl⟩
  · rintro s rfl hkind
    rw [verify_eq_ok_iff, Pass.result_lowering_bytecode hkind]
    cases s.routine.code with
    | ok code => simp
    | error e => simp

-- the second operand of the first operator is missing, and what follows the return is never looked at
example (name : String) :
    let f : Routine := ⟨name, "", { params := ["addend"] }, [.arg 0, .binary .add, .ret, .arg 7]⟩
    f.reachable = .error (.invalidBytecode name 1 (.tooFewOperands (.binary .add) 1)) ∧
      f.code = .error (.invalidBytecode name 1 .stackUnderflow) := ⟨rfl, rfl⟩

end Routine

end Graft
