/-
The arithmetic of lowered code, measured against the integers.

`Operator.exactResult` is the result of an operator over the integers. Where an operator has a value for two words, that
value is the exact result, wrapped into the range of words (`toInt_of_apply`). It has none in two cases
(`apply_eq_none_iff`): the divisor is zero, or the least word is divided by -1.

`Body.Reaches` says which states a run of three-address code goes through: the temporaries set so far, and the code that
is left. Along it the outcome stays the same (`exec_of_reaches`), and a run that fails has reached the instruction it
fails at (`reaches_of_exec_eq_error`). So

- `call_fails_iff_reaches_undefined`: a call of lowered code fails exactly when it reaches a division without value, and
  every other operation that it reaches sets its temporary to the exact result, wrapped;
- `leastQuotient_fails`: the least word divided by -1 is refused as a division by zero, though the run meets no zero.
-/
import Mathlib.Tactic
import Graft.Proofs.Routine.Simulation

namespace Graft

namespace Operator

/-- the result over the integers: a quotient truncates, and a remainder takes the sign of the dividend -/
def exactResult (op : Operator) (a b : Int) : Int :=
  match op with
  | .add => a + b
  | .sub => a - b
  | .mul => a * b
  | .div => a.tdiv b
  | .rem => a.tmod b

/-- the divisions without value: by zero, and of the least word by -1 -/
def Undefined (op : Operator) (x y : Int64) : Prop :=
  (op = .div ∨ op = .rem) ∧ (y = 0 ∨ x = Int64.minValue ∧ y = -1)

instance (op : Operator) (x y : Int64) : Decidable (op.Undefined x y) := inferInstanceAs (Decidable (_ ∧ _))

theorem not_hasQuotient_iff (x y : Int64) : ¬ HasQuotient x y ↔ y = 0 ∨ x = Int64.minValue ∧ y = -1 := by
  rw [HasQuotient]
  tauto

theorem apply_eq_none_iff (op : Operator) (x y : Int64) : op.apply x y = none ↔ op.Undefined x y := by
  rw [Undefined, ← not_hasQuotient_iff]
  cases op <;> simp [apply]

/-- a value is the exact result, wrapped into the range of words -/
theorem toInt_of_apply {op : Operator} {x y v : Int64} (h : op.apply x y = some v) :
    v.toInt = (op.exactResult x.toInt y.toInt).bmod (2 ^ 64) := by
  cases op with
  | add =>
    cases h
    exact Int64.toInt_add x y
  | sub =>
    cases h
    exact Int64.toInt_sub x y
  | mul =>
    cases h
    exact Int64.toInt_mul x y
  | div =>
    simp only [apply] at h
    split_ifs at h
    cases h
    exact Int64.toInt_div x y
  | rem =>
    simp only [apply] at h
    split_ifs at h
    cases h
    -- the exact remainder is a word already
    rw [exactResult, ← Int64.toInt_mod]
    exact (Int64.toInt_bmod _).symm

end Operator

namespace Instr

variable {symbol : String} {args : List Int64} {temps : Temps} {op : Operator} {dest left right : Temp}

theorem eq_undefinedTemp_of_read {t : Temp} {e : ExecutionFault} (h : temps.read symbol t = .error e) :
    e = .undefinedTemp symbol t := by
  simp only [Temps.read] at h
  split at h <;> cases h
  rfl

/-- an operation that finds both operands sets its temporary, or stops the run when it has no value for them -/
theorem step_binary {x y : Int64} (hx : temps.read symbol left = .ok x) (hy : temps.read symbol right = .ok y) :
    (binary op dest left right).step symbol args temps =
      match op.apply x y with
      | some v => .ok (.set dest v)
      | none => .error (.undefinedResult op symbol) := by
  simp only [step, hx, hy]
  rfl

/-- an operation finds both operands, or stops the run at one that was never set -/
theorem operands_of_binary (symbol : String) (args : List Int64) (temps : Temps) (op : Operator)
    (dest left right : Temp) :
    (∃ x y, temps.read symbol left = .ok x ∧ temps.read symbol right = .ok y) ∨
      ∃ t, (binary op dest left right).step symbol args temps = .error (.undefinedTemp symbol t) := by
  cases hx : temps.read symbol left with
  | error e =>
    refine Or.inr ⟨left, ?_⟩
    rw [step, hx, eq_undefinedTemp_of_read hx]
    rfl
  | ok x =>
    cases hy : temps.read symbol right with
    | error e =>
      refine Or.inr ⟨right, ?_⟩
      rw [step, hx, hy, eq_undefinedTemp_of_read hy]
      rfl
    | ok y => exact Or.inl ⟨x, y, rfl, rfl⟩

theorem read_bind_ne_undefinedResult (t : Temp) (k : Int64 → Step) :
    (temps.read symbol t >>= fun x => .ok (k x)) ≠ .error (.undefinedResult op symbol) := by
  intro h
  cases hx : temps.read symbol t with
  | error e =>
    rw [hx, eq_undefinedTemp_of_read hx] at h
    cases h
  | ok x =>
    rw [hx] at h
    cases h

/-- only an operation stops a run for want of a value: it found operands that it has no value for -/
theorem eq_binary_of_step {i : Instr} (h : i.step symbol args temps = .error (.undefinedResult op symbol)) :
    ∃ dest left right x y, i = .binary op dest left right ∧ temps.read symbol left = .ok x ∧
      temps.read symbol right = .ok y ∧ op.apply x y = none := by
  cases i with
  | const d v => cases h
  | arg d j =>
    simp only [step] at h
    split at h <;> cases h
  | binary op' d l r =>
    obtain ⟨x, y, hx, hy⟩ | ⟨t, ht⟩ := operands_of_binary symbol args temps op' d l r
    · rw [step_binary hx hy] at h
      cases hv : op'.apply x y with
      | some v => simp [hv] at h
      | none =>
        simp only [hv] at h
        cases h
        exact ⟨d, l, r, x, y, rfl, hx, hy, hv⟩
    · rw [ht] at h
      cases h
  | neg d a => exact absurd h (read_bind_ne_undefinedResult a fun x => .set d (-x))
  | ret a => exact absurd h (read_bind_ne_undefinedResult a .done)

/-- a return ends the run -/
theorem step_ret_ne_set (source : Temp) {v : Int64} : (ret source).step symbol args temps ≠ .ok (.set dest v) := by
  intro h
  rw [step] at h
  cases hx : temps.read symbol source with
  | error e =>
    rw [hx] at h
    cases h
  | ok x =>
    rw [hx] at h
    cases h

end Instr

namespace Body

/-- the run of `code` with `temps` set comes to a state with other temporaries set and other code left -/
inductive Reaches (symbol : String) (args : List Int64) : Temps → List Instr → Temps → List Instr → Prop
  | refl (temps : Temps) (code : List Instr) : Reaches symbol args temps code temps code
  | step {i : Instr} {dest : Temp} {v : Int64} {temps temps' : Temps} {rest code' : List Instr}
      (hset : i.step symbol args temps = .ok (.set dest v))
      (h : Reaches symbol args ((dest, v) :: temps) rest temps' code') :
      Reaches symbol args temps (i :: rest) temps' code'

variable {symbol : String} {args : List Int64} {temps temps' : Temps} {code code' rest : List Instr}

/-- a run ends as it ends from any state that it reaches -/
theorem exec_of_reaches (h : Reaches symbol args temps code temps' code') :
    exec symbol args temps code = exec symbol args temps' code' := by
  induction h with
  | refl temps code => rfl
  | step hset _ ih =>
    rw [exec, hset]
    exact ih

theorem exec_of_reaches_of_error {i : Instr} {e : ExecutionFault}
    (h : Reaches symbol args temps code temps' (i :: rest)) (he : i.step symbol args temps' = .error e) :
    (exec symbol args temps code).1 = .error e := by
  rw [exec_of_reaches h, exec, he]

/-- a run that fails reaches the instruction that fails, unless it runs out of code -/
theorem reaches_of_exec_eq_error {e : ExecutionFault} (h : (exec symbol args temps code).1 = .error e) :
    e = .noReturn symbol ∨
      ∃ temps' i rest, Reaches symbol args temps code temps' (i :: rest) ∧ i.step symbol args temps' = .error e := by
  induction code generalizing temps with
  | nil =>
    cases h
    exact Or.inl rfl
  | cons i rest ih =>
    rw [exec] at h
    cases hstep : i.step symbol args temps with
    | error e' =>
      rw [hstep] at h
      cases h
      exact Or.inr ⟨temps, i, rest, .refl _ _, hstep⟩
    | ok s =>
      rw [hstep] at h
      cases s with
      | done v => cases h
      | set dest v =>
        refine (ih h).imp_right ?_
        rintro ⟨temps', j, rest', hreach, he⟩
        exact ⟨temps', j, rest', .step hstep hreach, he⟩

/-- the run of the body on `args` comes to an operation, with `x` and `y` as its operands -/
def Performs (b : Body) (args : List Int64) (op : Operator) (x y : Int64) : Prop :=
  ∃ temps dest left right rest, Reaches b.symbol args [] b.code temps (.binary op dest left right :: rest) ∧
    temps.read b.symbol left = .ok x ∧ temps.read b.symbol right = .ok y

/-- a run that stops for want of a value has come to a division without one -/
theorem performs_of_value {b : Body} {args : List Int64} {op : Operator}
    (h : b.value args = .error (.undefinedResult op b.symbol)) : ∃ x y, b.Performs args op x y ∧ op.Undefined x y := by
  obtain hend | ⟨temps, i, rest, hreach, hstep⟩ := reaches_of_exec_eq_error h
  · cases hend
  · obtain ⟨dest, left, right, x, y, rfl, hx, hy, hnone⟩ := Instr.eq_binary_of_step hstep
    exact ⟨x, y, ⟨temps, dest, left, right, rest, hreach, hx, hy⟩, (op.apply_eq_none_iff x y).1 hnone⟩

/-- a run that comes to a division without value stops there -/
theorem value_of_performs {b : Body} {args : List Int64} {op : Operator} {x y : Int64} (h : b.Performs args op x y)
    (hundef : op.Undefined x y) : b.value args = .error (.undefinedResult op b.symbol) := by
  obtain ⟨temps, dest, left, right, rest, hreach, hx, hy⟩ := h
  refine exec_of_reaches_of_error hreach ?_
  rw [Instr.step_binary hx hy, (op.apply_eq_none_iff x y).2 hundef]

end Body

/-- **Arithmetic of lowered code.** A verified routine of fewer than 2^32 operations has three-address code. A call of
it with as many arguments as the routine takes fails exactly when the run comes to a division by zero, or to one of the
least word by -1. Every operation that it comes to has its operands, and all but these divisions yield the exact result
over the integers, reduced modulo 2^64 into the range of words. -/
theorem call_fails_iff_reaches_undefined (image : Image) (symbol : String) (f : Routine) (args : List Int64)
    (hlen : f.body.length < 2 ^ 32) (hver : f.verify.value = .ok ()) (hargs : args.length = f.signature.params.length) :
    ∃ code, f.lower.value = .ok code ∧
      ((∃ fault, ((Entry.lowered ⟨symbol, f.arity, code⟩).call image args).value = .error fault) ↔
        ∃ op x y, Body.Performs ⟨symbol, f.arity, code⟩ args op x y ∧ op.Undefined x y) ∧
      ∀ temps op dest left right rest, Body.Reaches symbol args [] code temps (.binary op dest left right :: rest) →
        ∃ x y, temps.read symbol left = .ok x ∧ temps.read symbol right = .ok y ∧
          (¬ op.Undefined x y → ∃ v, (Instr.binary op dest left right).step symbol args temps = .ok (.set dest v) ∧
            v.toInt = (op.exactResult x.toInt y.toInt).bmod (2 ^ 64)) := by
  obtain ⟨code, hlowered, hcode⟩ := Routine.code_of_verify hver
  have hcount : args.length = f.arity.toNat := hargs.trans f.signature.toNat_arity.symm
  have hsame : Simulation.SameEnd symbol (f.meaning args) (Body.value ⟨symbol, f.arity, code⟩ args) :=
    Simulation.meaning_value hlen hcount hlowered
  refine ⟨code, by rw [Routine.value_lower, hcode], ?_, ?_⟩
  · rw [Entry.value_call_lowered image _ args hcount]
    constructor
    · rintro ⟨fault, hfault⟩
      cases hvalue : Body.value ⟨symbol, f.arity, code⟩ args with
      | ok v =>
        rw [hvalue] at hfault
        cases hfault
      | error e =>
        rw [hvalue] at hsame
        obtain ⟨op, rfl⟩ := hsame.eq_undefinedResult
        exact ⟨op, Body.performs_of_value hvalue⟩
    · rintro ⟨op, x, y, hperforms, hundef⟩
      rw [Body.value_of_performs hperforms hundef]
      exact ⟨_, rfl⟩
  · intro temps op dest left right rest hreach
    obtain ⟨x, y, hx, hy⟩ | ⟨t, ht⟩ := Instr.operands_of_binary symbol args temps op dest left right
    · refine ⟨x, y, hx, hy, ?_⟩
      intro hdef
      obtain ⟨v, hv⟩ := Option.ne_none_iff_exists'.1 (mt (op.apply_eq_none_iff x y).1 hdef)
      exact ⟨v, by rw [Instr.step_binary hx hy, hv], Operator.toInt_of_apply hv⟩
    · -- an operand that was never set would have stopped the run, but nothing but a missing value does
      rw [Body.value, Body.exec_of_reaches_of_error hreach ht] at hsame
      obtain ⟨_, hop⟩ := hsame.eq_undefinedResult
      cases hop

/-- the quotient of two arguments -/
def quotient : Routine where
  name := "quotient"
  qualifiedName := ""
  signature := { params := ["numerator", "denominator"] }
  body := [.arg 0, .arg 1, .binary .div, .ret]

def quotientBody : Body := ⟨"s", 2, [.arg 0 0, .arg 1 1, .binary .div 2 0 1, .ret 2]⟩

/-- the one operation of the quotient has the two arguments as its operands -/
theorem performs_quotientBody_iff {a b : Int64} {op : Operator} {x y : Int64} :
    quotientBody.Performs [a, b] op x y ↔ op = .div ∧ x = a ∧ y = b := by
  constructor
  · rintro ⟨temps, dest, left, right, rest, hreach, hx, hy⟩
    -- the first two instructions load the arguments, the third is the division, and the last one ends the run
    cases hreach with
    | step hset hreach =>
      cases hset
      cases hreach with
      | step hset hreach =>
        cases hset
        cases hreach with
        | refl =>
          cases hx
          cases hy
          exact ⟨rfl, rfl, rfl⟩
        | step hset hreach =>
          cases hreach with
          | step hset _ => exact absurd hset (Instr.step_ret_ne_set 2)
  · rintro ⟨rfl, rfl, rfl⟩
    exact ⟨[(1, y), (0, x)], 2, 0, 1, [.ret 2], .step rfl (.step rfl (.refl _ _)), rfl, rfl⟩

/-- 7 has no quotient by 0; half the least word is -2^62, with no wrapping -/
theorem call_quotient_fails_iff :
    quotient.verify.value = .ok () ∧ quotient.lower.value = .ok quotientBody.code ∧
    (∃ fault, ((Entry.lowered quotientBody).call (fun _ => none) [7, 0]).value = .error fault) ∧
    ∃ v, (Instr.binary .div 2 0 1).step "s" [Int64.minValue, 2] [(1, 2), (0, Int64.minValue)] = .ok (.set 2 v) ∧
      v.toInt = -2 ^ 62 := by
  have hcode : quotient.lower.value = .ok quotientBody.code := rfl
  refine ⟨rfl, hcode, ?_, ?_⟩
  · obtain ⟨code, hlower, hfails, -⟩ :=
      call_fails_iff_reaches_undefined (fun _ => none) "s" quotient [7, 0] (by decide) rfl rfl
    cases hcode.symm.trans hlower
    exact hfails.2 ⟨.div, 7, 0, performs_quotientBody_iff.2 ⟨rfl, rfl, rfl⟩, Or.inl rfl, Or.inl rfl⟩
  · obtain ⟨code, hlower, -, hexact⟩ :=
      call_fails_iff_reaches_undefined (fun _ => none) "s" quotient [Int64.minValue, 2] (by decide) rfl rfl
    cases hcode.symm.trans hlower
    obtain ⟨x, y, hx, hy, hdef⟩ := hexact [(1, 2), (0, Int64.minValue)] .div 2 0 1 [.ret 2]
      (.step rfl (.step rfl (.refl _ _)))
    cases hx
    cases hy
    obtain ⟨v, hstep, hv⟩ := hdef (by decide)
    exact ⟨v, hstep, hv.trans (by decide)⟩

/-- **The least word divided by -1** is refused as a division by zero. Its one division has no zero in it, and over the
integers it has the quotient 2^63, which wraps to the least word again. -/
theorem leastQuotient_fails :
    quotient.verify.value = .ok () ∧ quotient.lower.value = .ok quotientBody.code ∧
    ((Entry.lowered quotientBody).call (fun _ => none) [Int64.minValue, -1]).value =
      .error (.error (.execution (.undefinedResult .div "s"))) ∧
    (∀ op x y, quotientBody.Performs [Int64.minValue, -1] op x y → y ≠ 0) ∧
    (Operator.div.exactResult Int64.minValue.toInt (-1 : Int64).toInt).bmod (2 ^ 64) = Int64.minValue.toInt := by
  refine ⟨rfl, rfl, rfl, ?_, by decide⟩
  intro op x y hperforms
  obtain ⟨-, -, rfl⟩ := performs_quotientBody_iff.1 hperforms
  decide

end Graft
