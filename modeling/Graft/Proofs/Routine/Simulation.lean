/-
Lowered code computes what the stack machine computes.

The invariant of a run is `Tracks`: the temporaries on the symbolic stack of the lowering hold, in order, the values on
the stack of the machine, and each of them was set by an earlier instruction. The instruction at offset k sets temporary
k, so as long as offsets fit a temporary's number no live temporary is overwritten (`Tracks.push`).

- `act_step`: one operation of the machine and the instruction emitted for it do the same (`SameStep`).
- `run_exec`: so do the run of the machine and the run of the emitted code (`SameEnd`).
- `call_lowered_iff_meaning`: a call of lowered code returns what the machine returns, and fails exactly where the
  machine is stuck, with the operator it is stuck at.
-/
import Mathlib.Tactic
import Graft.Entry
import Graft.Proofs.Routine.Emission
import Graft.Proofs.StackMachine

namespace Graft

open StackMachine

namespace Simulation

variable {symbol : String} {arity : UInt64} {args : List Int64}
variable {temps : Temps} {offset : Nat} {names : List Temp} {stack : List Int64}

/-- the temporaries that stand for the operand stack hold its values, and were set before the instruction at `offset` -/
def Tracks (temps : Temps) (offset : Nat) (names : List Temp) (stack : List Int64) : Prop :=
  List.Forall₂ (fun t v => t.toNat < offset ∧ temps.lookup t = some v) names stack

/-- setting the temporary of the instruction at `offset` overwrites none that is in use -/
theorem Tracks.push (h : Tracks temps offset names stack) (hoff : offset < 2 ^ 32) (v : Int64) :
    Tracks ((.ofNat offset, v) :: temps) (offset + 1) (.ofNat offset :: names) (v :: stack) := by
  have hnat : (UInt32.ofNat offset).toNat = offset := UInt32.toNat_ofNat_of_lt' hoff
  refine .cons ⟨by omega, by simp⟩ (h.imp ?_)
  rintro t w ⟨hlt, hw⟩
  have hne : t ≠ .ofNat offset := by
    rintro rfl
    omega
  exact ⟨by omega, by rw [List.lookup_cons, beq_eq_false_iff_ne.2 hne]; exact hw⟩

theorem Tracks.read {t : Temp} {v : Int64} (h : Tracks temps offset (t :: names) (v :: stack)) :
    temps.read symbol t = .ok v := by
  obtain ⟨⟨-, hv⟩, -⟩ := List.forall₂_cons.1 h
  simp [Temps.read, hv]

theorem Tracks.tail {t : Temp} {v : Int64} (h : Tracks temps offset (t :: names) (v :: stack)) :
    Tracks temps offset names stack :=
  (List.forall₂_cons.1 h).2

/-- the machine's move and the instruction's step do the same, and keep the invariant when they go on -/
inductive SameStep (symbol : String) (temps : Temps) (offset : Nat) (names : List Temp) :
    Move → Except ExecutionFault Step → Prop
  | next {v : Int64} {stack : List Int64} (h : Tracks ((.ofNat offset, v) :: temps) (offset + 1) names stack) :
      SameStep symbol temps offset names (.next stack) (.ok (.set (.ofNat offset) v))
  | returned (v : Int64) : SameStep symbol temps offset names (.halt (.returned v)) (.ok (.done v))
  | stuck (op : Operator) :
      SameStep symbol temps offset names (.halt (.stuck op)) (.error (.undefinedResult op symbol))

/-- the run of the machine and the run of the code end alike -/
inductive SameEnd (symbol : String) : Outcome → Except ExecutionFault Int64 → Prop
  | returned (v : Int64) : SameEnd symbol (.returned v) (.ok v)
  | stuck (op : Operator) : SameEnd symbol (.stuck op) (.error (.undefinedResult op symbol))

/-- a run of the code that ends as the machine ends fails for want of a value only -/
theorem SameEnd.eq_undefinedResult {outcome : Outcome} {e : ExecutionFault} (h : SameEnd symbol outcome (.error e)) :
    ∃ op, e = .undefinedResult op symbol := by
  cases h with
  | stuck op => exact ⟨op, rfl⟩

/-- it returns what the machine returns, in whatever way its failures are reported -/
theorem SameEnd.mapError_eq_ok_iff {ε : Type} {outcome : Outcome} {answer : Except ExecutionFault Int64}
    (h : SameEnd symbol outcome answer) (report : ExecutionFault → ε) (v : Int64) :
    answer.mapError report = .ok v ↔ outcome = .returned v := by
  cases h <;> simp [Except.mapError]

/-- **One step.** An operation that was lowered over the temporaries of the stack does what its instruction does. -/
theorem act_step {op : StackOp} {i : Instr} {after : List Temp} (hargs : args.length = arity.toNat)
    (hoff : offset < 2 ^ 32) (h : Tracks temps offset names stack)
    (hlow : op.lower arity (.ofNat offset) names = .ok (i, after)) :
    SameStep symbol temps offset after (op.act args stack) (i.step symbol args temps) := by
  cases op with
  | load v =>
    cases hlow
    exact .next (h.push hoff v)
  | arg j =>
    simp only [StackOp.lower] at hlow
    split at hlow
    · rename_i hj
      cases hlow
      have hget : args[j.toNat]? = some args[j.toNat] := List.getElem?_eq_getElem (by omega)
      simp only [StackOp.act, Instr.step, hget]
      exact .next (h.push hoff _)
    · cases hlow
  | binary op =>
    rcases names with _ | ⟨right, _ | ⟨left, names⟩⟩
    · cases hlow
    · cases hlow
    · obtain ⟨y, _, -, hys, rfl⟩ := List.forall₂_cons_left_iff.1 h
      obtain ⟨x, stack, -, -, rfl⟩ := List.forall₂_cons_left_iff.1 hys
      cases hlow
      -- the left operand lies below the right one, on both stacks
      simp only [StackOp.act, Instr.step, h.read, h.tail.read, bind, Except.bind]
      cases op.apply x y with
      | some v => exact .next (h.tail.tail.push hoff v)
      | none => exact .stuck op
  | neg =>
    rcases names with _ | ⟨source, names⟩
    · cases hlow
    · obtain ⟨x, stack, -, -, rfl⟩ := List.forall₂_cons_left_iff.1 h
      cases hlow
      simp only [StackOp.act, Instr.step, h.read, bind, Except.bind]
      exact .next (h.tail.push hoff (-x))
  | ret =>
    rcases names with _ | ⟨source, names⟩
    · cases hlow
    · obtain ⟨x, stack, -, -, rfl⟩ := List.forall₂_cons_left_iff.1 h
      cases hlow
      simp only [StackOp.act, Instr.step, h.read, bind, Except.bind]
      exact .returned x

/-- **Whole runs.** Code that was lowered over the temporaries of the stack ends as the machine ends. -/
theorem run_exec {body : List StackOp} {code : List Instr} (hargs : args.length = arity.toNat)
    (hlen : offset + body.length ≤ 2 ^ 32) (h : Tracks temps offset names stack)
    (hlow : Routine.emission arity offset names body = .ok code) :
    SameEnd symbol (run args stack body) (Body.exec symbol args temps code).1 := by
  induction body generalizing temps offset names stack code with
  | nil => cases hlow
  | cons op rest ih =>
    rw [List.length_cons] at hlen
    obtain ⟨i, after, tail, hop, rfl, hrest⟩ := Routine.emission_cons_eq_ok hlow
    have hstep : SameStep symbol temps offset after (op.act args stack) (i.step symbol args temps) :=
      act_step hargs (by omega) h hop
    rw [run, Body.exec]
    generalize hmove : op.act args stack = move at hstep ⊢
    generalize i.step symbol args temps = step at hstep ⊢
    cases hstep with
    | returned v => exact .returned v
    | stuck op => exact .stuck op
    | next hnext =>
      rcases hrest with ⟨rfl, -⟩ | ⟨-, htail⟩
      · exact absurd hmove (by cases stack <;> simp [StackOp.act])
      · exact ih (by omega) hnext htail

/-- the code of a routine, run on as many arguments as the routine takes, ends as the machine ends -/
theorem meaning_value {f : Routine} {code : List Instr} (hlen : f.body.length < 2 ^ 32)
    (hargs : args.length = f.arity.toNat) (hcode : f.lowered = .ok code) :
    SameEnd symbol (f.meaning args) (Body.value ⟨symbol, f.arity, code⟩ args) := by
  rw [Routine.lowered_eq_emission] at hcode
  exact run_exec hargs (by omega) .nil hcode

end Simulation

/-- a call of a lowered entry with as many arguments as it takes is a run of its code -/
theorem Entry.value_call_lowered (image : Image) (b : Body) (args : List Int64) (h : args.length = b.arity.toNat) :
    ((Entry.lowered b).call image args).value = (b.value args).mapError (.error ∘ .execution) := by
  simp [call, arity, h, Body.run]

theorem ExecutionFault.message_undefinedResult (symbol : String) (op : Operator) :
    (Error.execution (.undefinedResult op symbol)).message =
      "Execution error: " ++ op.name ++ " by zero in '" ++ symbol ++ "'" := by
  show "Execution error: " ++ (op.name ++ " by zero in '" ++ symbol ++ "'") = _
  simp only [String.append_assoc]

/-- **Lowering preserves meaning.** A verified routine of fewer than 2^32 operations has three-address code. Called
under any symbol with as many arguments as the routine takes, the code returns exactly what the stack machine returns,
and fails exactly when the machine is stuck: with the division error that names the operator the machine is stuck at. -/
theorem call_lowered_iff_meaning (image : Image) (symbol : String) (f : Routine) (args : List Int64)
    (hlen : f.body.length < 2 ^ 32) (hver : f.verify.value = .ok ()) (hargs : args.length = f.signature.params.length) :
    ∃ code, f.lower.value = .ok code ∧
      (∀ v, ((Entry.lowered ⟨symbol, f.arity, code⟩).call image args).value = .ok v ↔ f.meaning args = .returned v) ∧
      (∀ op, ((Entry.lowered ⟨symbol, f.arity, code⟩).call image args).value =
          .error (.error (.execution (.undefinedResult op symbol))) ↔ f.meaning args = .stuck op) ∧
      (∀ fault, ((Entry.lowered ⟨symbol, f.arity, code⟩).call image args).value = .error fault →
        ∃ op, fault = .error (.execution (.undefinedResult op symbol))) ∧
      ∀ op : Operator, (Error.execution (.undefinedResult op symbol)).message =
        "Execution error: " ++ op.name ++ " by zero in '" ++ symbol ++ "'" := by
  obtain ⟨code, hlowered, hcode⟩ := Routine.code_of_verify hver
  have hcount : args.length = f.arity.toNat := hargs.trans f.signature.toNat_arity.symm
  have hsame : Simulation.SameEnd symbol (f.meaning args) (Body.value ⟨symbol, f.arity, code⟩ args) :=
    Simulation.meaning_value hlen hcount hlowered
  refine ⟨code, by rw [Routine.value_lower, hcode], ?_⟩
  rw [Entry.value_call_lowered image _ args hcount]
  generalize f.meaning args = outcome at hsame ⊢
  generalize Body.value ⟨symbol, f.arity, code⟩ args = answer at hsame ⊢
  refine ⟨?_, ?_, ?_, ExecutionFault.message_undefinedResult symbol⟩
  · intro v
    cases hsame <;> simp [Except.mapError]
  · intro op
    cases hsame <;> simp [Except.mapError]
  · intro fault hfault
    cases hsame with
    | returned v => cases hfault
    | stuck op =>
      cases hfault
      exact ⟨op, rfl⟩

/-- the first argument less its quotient by the second -/
def lessQuotient : Routine where
  name := "less"
  qualifiedName := ""
  signature := { params := ["dividend", "divisor"] }
  body := [.arg 0, .arg 0, .arg 1, .binary .div, .binary .sub, .ret, .neg]

/-- 7 less its half is 4; there is no quotient by 0, and the machine stops at the division -/
theorem call_lessQuotient_iff_meaning :
    lessQuotient.verify.value = .ok () ∧
    (∃ code, lessQuotient.lower.value = .ok code ∧
      ((Entry.lowered ⟨"s", lessQuotient.arity, code⟩).call (fun _ => none) [7, 2]).value = .ok 4) ∧
    ∃ code, lessQuotient.lower.value = .ok code ∧
      ((Entry.lowered ⟨"s", lessQuotient.arity, code⟩).call (fun _ => none) [7, 0]).value =
        .error (.error (.execution (.undefinedResult .div "s"))) := by
  refine ⟨rfl, ?_, ?_⟩
  · obtain ⟨code, hcode, hvalue, -⟩ :=
      call_lowered_iff_meaning (fun _ => none) "s" lessQuotient [7, 2] (by decide) rfl rfl
    exact ⟨code, hcode, (hvalue 4).2 (by decide)⟩
  · obtain ⟨code, hcode, -, hstuck, -⟩ :=
      call_lowered_iff_meaning (fun _ => none) "s" lessQuotient [7, 0] (by decide) rfl rfl
    exact ⟨code, hcode, (hstuck .div).2 (by decide)⟩

end Graft
