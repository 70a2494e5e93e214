/-
Which bodies verification accepts, said by counting.

Verification walks over the body with a running depth. The depth at a position is known without the walk: as long as
nothing before the position is faulty or returns, it is the number of loads before it less the number of binary
operators (`Routine.height`), and so is what is wrong there (`Routine.Faulty`).

- `walk_ends`: from a position it has reached, the walk ends at a return without fault, at a fault or at the end of the
  body, and everything before that place is right and does not return (`WalkEnd`).
- `verify_of_agree`: what stands after the first return is not looked at.
- `verify_iff_wellFormed`: which bodies are accepted, and where the others are refused.
-/
import Mathlib.Tactic
import Graft.Proofs.Routine.Emission

namespace Graft

/-- whether the instruction loads a constant or an argument -/
def StackOp.isLoad : StackOp → Bool
  | .load _ | .arg _ => true
  | .binary _ | .neg | .ret => false

def StackOp.isBinary : StackOp → Bool
  | .binary _ => true
  | .load _ | .arg _ | .neg | .ret => false

/-- an instruction that goes on counts for what it pushes, less what it pops -/
theorem StackOp.count_eq {op : StackOp} (hret : op ≠ .ret) :
    (if op.isLoad then 1 else 0) + op.pops = (if op.isBinary then 1 else 0) + op.pushes := by
  cases op with
  | ret => exact absurd rfl hret
  | load v | arg i | binary op | neg => rfl

/-- an instruction is without fault when it finds its operands, and its argument if it loads one -/
theorem StackOp.fault?_eq_none_iff {arity : UInt64} {depth : Nat} {op : StackOp} :
    op.fault? arity depth = none ↔ op.pops ≤ depth ∧ ∀ i, op = .arg i → i.toNat < arity.toNat := by
  cases op with
  | arg i => simp [fault?, pops]
  | load v => simp [fault?]
  | binary op => simp [fault?]
  | neg => simp [fault?]
  | ret => simp [fault?]

namespace Routine

variable {f : Routine} {k : Nat} {op : StackOp}

/-- loads before a position, less the binary operators before it -/
def height (f : Routine) (k : Nat) : Int :=
  (f.body.take k).countP StackOp.isLoad - (f.body.take k).countP StackOp.isBinary

/-- the instruction at a position finds no argument at its index, or too few operands -/
def Faulty (f : Routine) (k : Nat) : Prop :=
  match f.body[k]? with
  | some (.arg i) => f.arity.toNat ≤ i.toNat
  | some (.binary _) => f.height k < 2
  | some .neg | some .ret => f.height k < 1
  | some (.load _) | none => False

instance (f : Routine) (k : Nat) : Decidable (f.Faulty k) := by unfold Faulty; split <;> infer_instance

/-- the position of the first return -/
def FirstReturn (f : Routine) (r : Nat) : Prop := f.body[r]? = some .ret ∧ ∀ j < r, f.body[j]? ≠ some .ret

/-- there is a return, and no fault up to the first one -/
def WellFormed (f : Routine) : Prop := ∃ r, f.FirstReturn r ∧ ∀ k ≤ r, ¬ f.Faulty k

/-- nothing before the position is faulty or returns -/
def Clear (f : Routine) (k : Nat) : Prop := ∀ j < k, ¬ f.Faulty j ∧ f.body[j]? ≠ some .ret

/-- the routine with another body -/
def withBody (f : Routine) (body : List StackOp) : Routine := { f with body }

/-! ## The height of the stack -/

/-- an instruction that goes on changes the height by what it pops and pushes -/
theorem height_succ (hop : f.body[k]? = some op) (hret : op ≠ .ret) :
    f.height (k + 1) = f.height k - op.pops + op.pushes := by
  have htake : f.body.take (k + 1) = f.body.take k ++ [op] := by rw [List.take_add_one, hop]; rfl
  have hnet := StackOp.count_eq hret
  rw [height, height, htake, List.countP_append, List.countP_append, List.countP_singleton, List.countP_singleton]
  omega

/-- where the depth of the walk is the height of the stack, the walk finds a fault exactly at the faulty positions -/
theorem fault?_eq_none_iff_not_faulty {depth : Nat} (hop : f.body[k]? = some op) (hdepth : depth = f.height k) :
    op.fault? f.arity depth = none ↔ ¬ f.Faulty k := by
  rw [StackOp.fault?_eq_none_iff, Faulty, hop]
  cases op with
  | load v => simp [StackOp.pops]
  | arg i => simp [StackOp.pops]
  | binary op => simp [StackOp.pops]; omega
  | neg => simp [StackOp.pops]; omega
  | ret => simp [StackOp.pops]; omega

/-! ## The walk -/

theorem clear_zero (f : Routine) : f.Clear 0 := by
  intro j hj
  omega

theorem Clear.succ (h : f.Clear k) (hfault : ¬ f.Faulty k) (hret : f.body[k]? ≠ some .ret) : f.Clear (k + 1) := by
  intro j hj
  rcases Nat.lt_succ_iff_lt_or_eq.1 hj with hlt | rfl
  · exact h j hlt
  · exact ⟨hfault, hret⟩

/-- no return stands before a position that can be reached -/
theorem Clear.le_of_ret {r : Nat} (h : f.Clear k) (hr : f.body[r]? = some .ret) : k ≤ r := by
  by_contra hlt
  exact (h r (by omega)).2 hr

/-- how a walk over the body ends: everything before the place where it ends is right and goes on -/
inductive WalkEnd (f : Routine) : Except (Nat × BodyFault) Nat → Prop
  | returned {r : Nat} (hclear : f.Clear r) (hret : f.body[r]? = some .ret) (h : ¬ f.Faulty r) : WalkEnd f (.ok (r + 1))
  | faulty {k : Nat} {fault : BodyFault} (hclear : f.Clear k) (h : f.Faulty k) : WalkEnd f (.error (k, fault))
  | noReturn (hclear : f.Clear f.body.length) : WalkEnd f (.error (f.body.length, .noReturn))

/-- a walk that has reached a position with the height of the stack there ends in one of the three ways -/
theorem walk_ends {depth : Nat} {rest : List StackOp} (hrest : f.body.drop k = rest) (hk : k ≤ f.body.length)
    (hclear : f.Clear k) (hdepth : depth = f.height k) : f.WalkEnd (walk f.arity k depth rest) := by
  induction rest generalizing k depth with
  | nil =>
    have hend : k = f.body.length := le_antisymm hk (List.drop_eq_nil_iff.1 hrest)
    subst hend
    exact .noReturn hclear
  | cons op rest ih =>
    have hop : f.body[k]? = some op := by rw [← List.head?_drop, hrest]; rfl
    have hnext : f.body.drop (k + 1) = rest := by rw [← List.tail_drop, hrest]; rfl
    have hlt : k < f.body.length := (List.getElem?_eq_some_iff.1 hop).1
    rw [walk]
    cases hf : op.fault? f.arity depth with
    | some fault =>
      have hfaulty : f.Faulty k := by
        by_contra hnot
        rw [(fault?_eq_none_iff_not_faulty hop hdepth).2 hnot] at hf
        cases hf
      exact .faulty hclear hfaulty
    | none =>
      have hright : ¬ f.Faulty k := (fault?_eq_none_iff_not_faulty hop hdepth).1 hf
      dsimp only
      split_ifs with hret
      · exact .returned hclear (hret ▸ hop) hright
      · have hpops : op.pops ≤ depth := (StackOp.fault?_eq_none_iff.1 hf).1
        -- the walk subtracts natural numbers, and here there is enough to subtract from
        have hdepth' : ((depth - op.pops + op.pushes : Nat) : Int) = f.height (k + 1) := by
          rw [height_succ hop hret]
          omega
        exact ih hnext hlt (hclear.succ hright (by rw [hop]; simpa using hret)) hdepth'

/-! ## Whole routines -/

/-- a reading of bodies that stops at a return is the same for all bodies that agree up to the first return -/
theorem FirstReturn.congr {α : Type} {r : Nat} {body : List StackOp} (h : f.FirstReturn r)
    (hagree : body.take (r + 1) = f.body.take (r + 1)) (read : List StackOp → α)
    (hread : ∀ before tail, read (before ++ .ret :: tail) = read (before ++ [.ret])) : read body = read f.body := by
  have htake : f.body.take (r + 1) = f.body.take r ++ [.ret] := by rw [List.take_add_one, h.1]; rfl
  have hsplit (other : List StackOp) (hother : other.take (r + 1) = f.body.take (r + 1)) :
      read other = read (f.body.take r ++ [.ret]) := by
    rw [← hread (f.body.take r) (other.drop (r + 1)), List.append_cons, ← htake, ← hother, List.take_append_drop]
  rw [hsplit body hagree, hsplit f.body rfl]

theorem walk_append_ret {arity : UInt64} {offset depth : Nat} (before tail : List StackOp) :
    walk arity offset depth (before ++ .ret :: tail) = walk arity offset depth (before ++ [.ret]) := by
  induction before generalizing offset depth with
  | nil => simp [walk]
  | cons op before ih => simp only [List.cons_append, walk, ih]

theorem reachable_append_ret (f : Routine) (before tail : List StackOp) :
    (f.withBody (before ++ .ret :: tail)).reachable = (f.withBody (before ++ [.ret])).reachable := by
  have hne (rest : List StackOp) : (before ++ .ret :: rest).isEmpty = false := by simp
  simp only [reachable, withBody, hne]
  exact congrArg (Except.mapError _) (walk_append_ret before tail)

/-- what stands after the first return makes no difference to verification, nor to what it logs -/
theorem verify_of_agree {r : Nat} {body : List StackOp} (h : f.FirstReturn r)
    (hagree : body.take (r + 1) = f.body.take (r + 1)) : (f.withBody body).verify = f.verify := by
  have hreachable : (f.withBody body).reachable = f.reachable :=
    h.congr hagree (fun body => (f.withBody body).reachable) f.reachable_append_ret
  simp only [verify, hreachable]
  rfl

/-- a return without fault that can be reached makes the body well-formed -/
theorem Clear.wellFormed {r : Nat} (h : f.Clear r) (hret : f.body[r]? = some .ret) (hright : ¬ f.Faulty r) :
    f.WellFormed := by
  refine ⟨r, ⟨hret, fun j hj => (h j hj).2⟩, fun k hk => ?_⟩
  rcases hk.lt_or_eq with hlt | rfl
  · exact (h k hlt).1
  · exact hright

/-- a body with a fault that can be reached, or without a return, is not well-formed -/
theorem Clear.not_wellFormed (h : f.Clear k) (hk : f.Faulty k ∨ k = f.body.length) : ¬ f.WellFormed := by
  rintro ⟨r, hr, hright⟩
  have hle : k ≤ r := h.le_of_ret hr.1
  rcases hk with hfault | rfl
  · exact hright k hle hfault
  · have hlt : r < f.body.length := (List.getElem?_eq_some_iff.1 hr.1).1
    omega

/-- **Verification accepts exactly the well-formed bodies.** The others it refuses at the first fault that is not after
the first return, or at the end of the body when there is neither a fault nor a return. What stands after the first
return makes no difference. -/
theorem verify_iff_wellFormed (f : Routine) :
    (f.verify.value = .ok () ↔ f.WellFormed) ∧
    (¬ f.WellFormed → ∃ offset fault, f.verify.value = .error (.invalidBytecode f.shownName offset fault) ∧
      (IsLeast {k | f.Faulty k ∧ ∀ r, f.FirstReturn r → k ≤ r} offset ∨
        offset = f.body.length ∧ .ret ∉ f.body ∧ ∀ k, ¬ f.Faulty k)) ∧
    ∀ r body, f.FirstReturn r → body.take (r + 1) = f.body.take (r + 1) → (f.withBody body).verify = f.verify := by
  have hend : f.WalkEnd (walk f.arity 0 0 f.body) := walk_ends rfl (Nat.zero_le _) f.clear_zero rfl
  generalize hwalk : walk f.arity 0 0 f.body = outcome at hend
  cases hend with
  | returned hclear hret hright =>
    have hwell : f.WellFormed := hclear.wellFormed hret hright
    exact ⟨iff_of_true (verify_of_walk_eq_ok hwalk) hwell, fun hnot => absurd hwell hnot, fun _ _ => verify_of_agree⟩
  | @faulty offset fault hclear hfault =>
    obtain ⟨fault, hverify⟩ := verify_of_walk_eq_error hwalk
    have hnot : ¬ f.WellFormed := hclear.not_wellFormed (Or.inl hfault)
    refine ⟨iff_of_false (by simp [hverify]) hnot, fun _ => ⟨offset, fault, hverify, Or.inl ⟨?_, ?_⟩⟩,
      fun _ _ => verify_of_agree⟩
    · exact ⟨hfault, fun r hr => hclear.le_of_ret hr.1⟩
    · rintro k ⟨hk, -⟩
      by_contra hlt
      exact (hclear k (by omega)).1 hk
  | noReturn hclear =>
    obtain ⟨fault, hverify⟩ := verify_of_walk_eq_error hwalk
    have hnot : ¬ f.WellFormed := hclear.not_wellFormed (Or.inr rfl)
    refine ⟨iff_of_false (by simp [hverify]) hnot,
      fun _ => ⟨f.body.length, fault, hverify, Or.inr ⟨rfl, ?_, ?_⟩⟩, fun _ _ => verify_of_agree⟩
    · intro hmem
      obtain ⟨j, hj⟩ := List.mem_iff_getElem?.1 hmem
      exact absurd (hclear.le_of_ret hj) (List.getElem?_eq_some_iff.1 hj).1.not_ge
    · intro k hk
      by_cases hlt : k < f.body.length
      · exact (hclear k hlt).1 hk
      · simp [Faulty, List.getElem?_eq_none (not_lt.1 hlt)] at hk

-- what the first operator leaves is not enough for the second
example :
    (Routine.mk "cube" "" { params := ["base"] } [.arg 0, .arg 0, .binary .mul, .binary .mul, .ret]).Faulty 3 := by
  decide

end Routine

end Graft
