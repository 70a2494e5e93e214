/-
Verification and lowering look at the same things.

`StackOp.fault?` sees only how many values are on the operand stack, `StackOp.lower` sees the temporaries that stand for
them. Where the first finds no fault the second emits an instruction, and leaves as many temporaries as the first counts
values (`lower_of_fault?_eq_none`). So a verified body has three-address code (`code_of_verify`).

Lowering numbers its temporaries by a counter. Every operation before the return takes one, so the counter is always the
offset (`counter_eq_offset`). With this, `emission_cons` says what is emitted without the counter and the accumulator.
-/
import Mathlib.Tactic
import Graft.Routine.Lower

namespace Graft

variable {arity : UInt64}

/-- an instruction without fault is lowered, and the stack of temporaries has the depth that verification counts -/
theorem StackOp.lower_of_fault?_eq_none {stack : List Temp} {op : StackOp} (dest : Temp)
    (h : op.fault? arity stack.length = none) :
    ∃ i after, op.lower arity dest stack = .ok (i, after) ∧ after.length = stack.length - op.pops + op.pushes := by
  cases op with
  | load v => exact ⟨.const dest v, dest :: stack, rfl, rfl⟩
  | arg i =>
    have hi : i.toNat < arity.toNat := by
      by_contra hge
      simp [fault?, hge] at h
    exact ⟨.arg dest i, dest :: stack, by simp only [lower, if_pos hi], rfl⟩
  | binary op =>
    rcases stack with _ | ⟨right, _ | ⟨left, rest⟩⟩
    · simp [fault?, pops] at h
    · simp [fault?, pops] at h
    · exact ⟨.binary op dest left right, dest :: rest, rfl, by simp [pops, pushes]⟩
  | neg =>
    rcases stack with _ | ⟨source, rest⟩
    · simp [fault?, pops] at h
    · exact ⟨.neg dest source, dest :: rest, rfl, by simp [pops, pushes]⟩
  | ret =>
    rcases stack with _ | ⟨source, rest⟩
    · simp [fault?, pops] at h
    · exact ⟨.ret source, rest, rfl, by simp [pops, pushes]⟩

namespace Routine

/-- what was emitted before stays in front of what is emitted from here on -/
theorem lowerFrom_eq_map (offset : Nat) (next : Temp) (stack : List Temp) (code : List Instr) (body : List StackOp) :
    lowerFrom arity offset next stack code body =
      (lowerFrom arity offset next stack [] body).map (code.reverse ++ ·) := by
  induction body generalizing offset next stack code with
  | nil => rfl
  | cons op rest ih =>
    simp only [lowerFrom]
    cases op.lower arity next stack with
    | error fault => rfl
    | ok p =>
      obtain ⟨i, after⟩ := p
      by_cases hret : op = .ret
      · simp [hret, Except.map]
      · -- both sides go on with one more instruction emitted
        simp only [if_neg hret]
        rw [ih (offset + 1) _ after (i :: code), ih (offset + 1) _ after [i]]
        cases lowerFrom arity (offset + 1) (next + .ofNat op.pushes) after [] rest <;> simp [Except.map]

/-- what is emitted from `offset` on over the temporaries of a stack, when the first temporary not in use has the number
of the offset -/
def emission (arity : UInt64) (offset : Nat) (stack : List Temp) (body : List StackOp) :
    Except (Nat × BodyFault) (List Instr) := lowerFrom arity offset (.ofNat offset) stack [] body

theorem lowered_eq_emission (f : Routine) : f.lowered = emission f.arity 0 [] f.body := rfl

/-- **The counter is the offset.** An operation that is not the return takes one temporary, so the first temporary not
in use has the number of the next offset after it. -/
theorem counter_eq_offset {op : StackOp} (h : op ≠ .ret) (offset : Nat) :
    (.ofNat offset + .ofNat op.pushes : Temp) = .ofNat (offset + 1) := by
  have hpushes : op.pushes = 1 := by
    cases op with
    | ret => exact absurd rfl h
    | _ => rfl
  rw [hpushes, UInt32.ofNat_add]

/-- the emission of a body is the instruction for its first operation and, unless that returns, the emission
of the rest -/
theorem emission_cons {offset : Nat} {stack after : List Temp} {op : StackOp} {i : Instr}
    (h : op.lower arity (.ofNat offset) stack = .ok (i, after)) (rest : List StackOp) :
    emission arity offset stack (op :: rest) =
      if op = .ret then .ok [i] else (emission arity (offset + 1) after rest).map (i :: ·) := by
  rw [emission, lowerFrom]
  simp only [h]
  by_cases hret : op = .ret
  · rw [if_pos hret, if_pos hret]
    rfl
  · rw [if_neg hret, if_neg hret, counter_eq_offset hret, lowerFrom_eq_map]
    rfl

/-- nothing is emitted once an operation cannot be lowered -/
theorem emission_cons_of_error {offset : Nat} {stack : List Temp} {op : StackOp} {fault : BodyFault}
    (h : op.lower arity (.ofNat offset) stack = .error fault) (rest : List StackOp) :
    emission arity offset stack (op :: rest) = .error (offset, fault) := by
  rw [emission, lowerFrom, h]

/-- what emitted code looks like: the instruction for the first operation, then the code of the rest unless
that returns -/
theorem emission_cons_eq_ok {offset : Nat} {stack : List Temp} {op : StackOp} {rest : List StackOp} {code : List Instr}
    (h : emission arity offset stack (op :: rest) = .ok code) :
    ∃ i after tail, op.lower arity (.ofNat offset) stack = .ok (i, after) ∧ code = i :: tail ∧
      (op = .ret ∧ tail = [] ∨ op ≠ .ret ∧ emission arity (offset + 1) after rest = .ok tail) := by
  cases hop : op.lower arity (.ofNat offset) stack with
  | error fault =>
    rw [emission_cons_of_error hop] at h
    cases h
  | ok p =>
    obtain ⟨i, after⟩ := p
    rw [emission_cons hop] at h
    by_cases hret : op = .ret
    · rw [if_pos hret] at h
      cases h
      exact ⟨i, after, [], rfl, rfl, Or.inl ⟨hret, rfl⟩⟩
    · rw [if_neg hret] at h
      cases htail : emission arity (offset + 1) after rest with
      | error p => simp [htail, Except.map] at h
      | ok tail =>
        rw [htail] at h
        cases h
        exact ⟨i, after, tail, rfl, rfl, Or.inr ⟨hret, htail⟩⟩

/-- the walk over a body goes on after an instruction that is not the return -/
theorem walk_cons_eq_ok {offset depth n : Nat} {op : StackOp} {rest : List StackOp}
    (h : walk arity offset depth (op :: rest) = .ok n) :
    op.fault? arity depth = none ∧
      (op = .ret ∨ walk arity (offset + 1) (depth - op.pops + op.pushes) rest = .ok n) := by
  rw [walk] at h
  cases hf : op.fault? arity depth with
  | some fault => simp [hf] at h
  | none =>
    simp only [hf] at h
    split at h
    · exact ⟨rfl, Or.inl (by assumption)⟩
    · exact ⟨rfl, Or.inr h⟩

/-- code that the walk accepts is lowered from any temporaries of the same depth -/
theorem emission_of_walk {offset n : Nat} {stack : List Temp} {body : List StackOp}
    (h : walk arity offset stack.length body = .ok n) : ∃ code, emission arity offset stack body = .ok code := by
  induction body generalizing offset stack with
  | nil => simp [walk] at h
  | cons op rest ih =>
    obtain ⟨hf, hrest⟩ := walk_cons_eq_ok h
    obtain ⟨i, after, hlow, hlen⟩ := StackOp.lower_of_fault?_eq_none (.ofNat offset) hf
    rw [emission_cons hlow]
    by_cases hret : op = .ret
    · exact ⟨[i], if_pos hret⟩
    · rw [← hlen] at hrest
      obtain ⟨code, hcode⟩ := ih (hrest.resolve_left hret)
      exact ⟨i :: code, by rw [if_neg hret, hcode]; rfl⟩

/-! ## Whole routines -/

variable {f : Routine}

@[simp] theorem value_lower (f : Routine) : f.lower.value = f.code := by
  simp only [lower]
  cases f.code <;> rfl

theorem value_verify (f : Routine) : f.verify.value = f.reachable.map fun _ => () := by
  simp only [verify]
  cases f.reachable <;> rfl

/-- what the walk accepts is verified: it is not empty, for the walk refuses the empty body too -/
theorem verify_of_walk_eq_ok {n : Nat} (h : walk f.arity 0 0 f.body = .ok n) : f.verify.value = .ok () := by
  have hne : f.body.isEmpty = false := by
    cases hb : f.body with
    | nil => simp [hb, walk] at h
    | cons op rest => rfl
  simp [value_verify, reachable, hne, h, Except.mapError, Except.map]

/-- the error of verification is at the offset where the walk stops; an empty body has words of its own for it -/
theorem verify_of_walk_eq_error {k : Nat} {fault : BodyFault} (h : walk f.arity 0 0 f.body = .error (k, fault)) :
    ∃ fault, f.verify.value = .error (.invalidBytecode f.shownName k fault) := by
  rw [value_verify, reachable]
  cases hb : f.body with
  | nil =>
    rw [hb] at h
    cases h
    exact ⟨.emptyBody, rfl⟩
  | cons op rest =>
    rw [hb] at h
    exact ⟨fault, by simp [h, Except.mapError, Except.map, invalid]⟩

theorem walk_of_verify (h : f.verify.value = .ok ()) : ∃ n, walk f.arity 0 0 f.body = .ok n := by
  cases hwalk : walk f.arity 0 0 f.body with
  | ok n => exact ⟨n, rfl⟩
  | error p =>
    obtain ⟨fault, hverify⟩ := verify_of_walk_eq_error hwalk
    rw [h] at hverify
    cases hverify

/-- a verified body has three-address code -/
theorem code_of_verify (h : f.verify.value = .ok ()) : ∃ code, f.lowered = .ok code ∧ f.code = .ok code := by
  obtain ⟨n, hn⟩ := walk_of_verify h
  have hwalk : walk f.arity 0 ([] : List Temp).length f.body = .ok n := hn
  obtain ⟨code, hcode⟩ := emission_of_walk hwalk
  rw [← lowered_eq_emission] at hcode
  exact ⟨code, hcode, by rw [Routine.code, hcode]; rfl⟩

/-- what verification reports is the fault of the body at an offset -/
theorem invalidBytecode_of_verify {e : Error} (h : f.verify.value = .error e) :
    ∃ offset fault, e = .invalidBytecode f.shownName offset fault := by
  cases hwalk : walk f.arity 0 0 f.body with
  | ok n =>
    rw [verify_of_walk_eq_ok hwalk] at h
    cases h
  | error p =>
    obtain ⟨fault, hverify⟩ := verify_of_walk_eq_error hwalk
    rw [h] at hverify
    cases hverify
    exact ⟨p.1, fault, rfl⟩

end Routine

end Graft
