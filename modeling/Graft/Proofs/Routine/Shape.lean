/-
The shape of lowered code: single assignment, single use.

The instruction at position k translates the operation at position k and, unless it returns, sets temporary k
(`Translates`). What it reads it takes off the stack of temporaries, where lowering then puts what it sets
(`StackOp.lower_exchange`). The invariant is `Layered`: the stack descends strictly from the temporary set last.

- `translates_lower`, `Layered.next`: one instruction under the invariant.
- `translates_emission`: all of them. That no temporary is read before it is set is read off the positions.
- `Layered.of_mem_sources`, `nodup_sources_emission`: what an instruction reads is off the stack for good, so no
  temporary is read twice.
- `code_shape`: all of this for whole routines, with the length of the code.
-/
import Mathlib.Tactic
import Graft.Proofs.Routine.WellFormed

namespace Graft

namespace Instr

/-- the temporary that the instruction sets -/
def dest? : Instr → Option Temp
  | .const d _ | .arg d _ | .binary _ d _ _ | .neg d _ => some d
  | .ret _ => none

/-- the temporaries that the instruction reads, in the order in which it names them -/
def sources : Instr → List Temp
  | .const _ _ | .arg _ _ => []
  | .binary _ _ left right => [left, right]
  | .neg _ source | .ret source => [source]

end Instr

/-- the instruction at position `k` for an operation: it sets temporary `k`, and its last operand is the
temporary before -/
inductive Translates (k : Nat) : StackOp → Instr → Prop
  | load {dest : Temp} (value : Int64) (hdest : dest.toNat = k) : Translates k (.load value) (.const dest value)
  | arg {dest : Temp} (index : UInt16) (hdest : dest.toNat = k) : Translates k (.arg index) (.arg dest index)
  | binary {dest left right : Temp} (op : Operator) (hdest : dest.toNat = k) (hright : right.toNat + 1 = k)
      (hleft : left < right) : Translates k (.binary op) (.binary op dest left right)
  | neg {dest source : Temp} (hdest : dest.toNat = k) (hsource : source.toNat + 1 = k) :
      Translates k .neg (.neg dest source)
  | ret {source : Temp} (hsource : source.toNat + 1 = k) : Translates k .ret (.ret source)

namespace Translates

variable {k : Nat} {op : StackOp} {i : Instr} {t : Temp}

theorem toNat_dest (h : Translates k op i) (ht : i.dest? = some t) : t.toNat = k := by
  cases h <;> cases ht <;> assumption

/-- every operation but the return sets a temporary -/
theorem exists_dest (h : Translates k op i) (hret : op ≠ .ret) : ∃ d, i.dest? = some d ∧ d.toNat = k := by
  cases h with
  | load _ hdest | arg _ hdest | binary _ hdest _ _ | neg hdest _ => exact ⟨_, rfl, hdest⟩
  | ret _ => exact absurd rfl hret

/-- what an instruction reads is numbered below what it sets -/
theorem toNat_source_lt (h : Translates k op i) (ht : t ∈ i.sources) : t.toNat < k := by
  cases h with
  | load _ _ | arg _ _ => cases ht
  | binary op _ hright hleft =>
    have hlt := UInt32.lt_iff_toNat_lt.1 hleft
    rcases List.mem_pair.1 ht with rfl | rfl
    · omega
    · omega
  | neg _ hsource | ret hsource =>
    obtain rfl := List.mem_singleton.1 ht
    omega

end Translates

/-! ## One instruction -/

/-- an instruction takes what it reads off the stack, the last operand first, and puts on it what it sets -/
theorem StackOp.lower_exchange {arity : UInt64} {dest : Temp} {stack after : List Temp} {op : StackOp} {i : Instr}
    (h : op.lower arity dest stack = .ok (i, after)) :
    ∃ rest, stack = i.sources.reverse ++ rest ∧ after = i.dest?.toList ++ rest := by
  cases op with
  | load v =>
    cases h
    exact ⟨stack, rfl, rfl⟩
  | arg j =>
    simp only [lower] at h
    split_ifs at h
    cases h
    exact ⟨stack, rfl, rfl⟩
  | binary op =>
    rcases stack with _ | ⟨right, _ | ⟨left, rest⟩⟩ <;> cases h
    exact ⟨rest, rfl, rfl⟩
  | neg =>
    rcases stack with _ | ⟨source, rest⟩ <;> cases h
    exact ⟨rest, rfl, rfl⟩
  | ret =>
    rcases stack with _ | ⟨source, rest⟩ <;> cases h
    exact ⟨after, rfl, rfl⟩

/-- the stack of temporaries before the instruction at `offset`: it descends strictly from the temporary set last -/
structure Layered (offset : Nat) (stack : List Temp) : Prop where
  top : ∀ t ∈ stack.head?, t.toNat + 1 = offset
  descends : stack.Pairwise (· > ·)

namespace Layered

variable {offset : Nat} {stack : List Temp}

theorem nil (offset : Nat) : Layered offset [] := ⟨by simp, .nil⟩

/-- everything on the stack was set before -/
theorem toNat_lt (h : Layered offset stack) {t : Temp} (ht : t ∈ stack) : t.toNat < offset := by
  cases stack with
  | nil => cases ht
  | cons top rest =>
    have htop : top.toNat + 1 = offset := h.top top rfl
    rcases List.mem_cons.1 ht with rfl | hrest
    · omega
    · have hlt : t.toNat < top.toNat := UInt32.lt_iff_toNat_lt.1 ((List.pairwise_cons.1 h.descends).1 t hrest)
      omega

theorem nodup (h : Layered offset stack) : stack.Nodup := h.descends.imp fun hlt => (UInt32.ne_of_lt hlt).symm

/-- the temporary of an instruction goes on top of what the instruction has left of the stack -/
theorem push (h : Layered offset stack) {taken rest : List Temp} (hstack : stack = taken ++ rest) {dest : Temp}
    (hdest : dest.toNat = offset) : Layered (offset + 1) (dest :: rest) := by
  refine ⟨?_, List.pairwise_cons.2 ⟨?_, ?_⟩⟩
  · rintro t ⟨⟩
    omega
  · intro t ht
    have hlt : t.toNat < offset := h.toNat_lt (by rw [hstack]; exact List.mem_append_right _ ht)
    exact UInt32.lt_iff_toNat_lt.2 (by omega)
  · have hdescends := h.descends
    rw [hstack] at hdescends
    exact (List.pairwise_append.1 hdescends).2.1

end Layered

section Step

variable {arity : UInt64} {offset : Nat} {stack after : List Temp} {op : StackOp} {i : Instr}

/-- **One instruction.** Over a layered stack an operation is translated, with its operands from the top. -/
theorem translates_lower (hoff : offset < 2 ^ 32) (hstack : Layered offset stack)
    (h : op.lower arity (.ofNat offset) stack = .ok (i, after)) : Translates offset op i := by
  have hdest : (UInt32.ofNat offset).toNat = offset := UInt32.toNat_ofNat_of_lt' hoff
  cases op with
  | load v =>
    cases h
    exact .load v hdest
  | arg j =>
    simp only [StackOp.lower] at h
    split_ifs at h
    cases h
    exact .arg j hdest
  | binary op =>
    rcases stack with _ | ⟨right, _ | ⟨left, rest⟩⟩ <;> cases h
    exact .binary op hdest (hstack.top right rfl) ((List.pairwise_cons.1 hstack.descends).1 left List.mem_cons_self)
  | neg =>
    rcases stack with _ | ⟨source, rest⟩ <;> cases h
    exact .neg hdest (hstack.top source rfl)
  | ret =>
    rcases stack with _ | ⟨source, rest⟩ <;> cases h
    exact .ret (hstack.top source rfl)

/-- and leaves a layered stack to the next -/
theorem Layered.next (hstack : Layered offset stack) (hoff : offset < 2 ^ 32)
    (h : op.lower arity (.ofNat offset) stack = .ok (i, after)) (hret : op ≠ .ret) : Layered (offset + 1) after := by
  obtain ⟨rest, htaken, rfl⟩ := StackOp.lower_exchange h
  obtain ⟨d, hd, hnumber⟩ := (translates_lower hoff hstack h).exists_dest hret
  rw [hd]
  exact hstack.push htaken hnumber

/-- no temporary is twice on a layered stack, so none is read twice by one instruction -/
theorem Layered.nodup_sources (hstack : Layered offset stack) {dest : Temp}
    (h : op.lower arity dest stack = .ok (i, after)) : i.sources.Nodup := by
  obtain ⟨rest, htaken, -⟩ := StackOp.lower_exchange h
  have hnodup := hstack.nodup
  rw [htaken] at hnodup
  exact List.nodup_reverse.1 (List.nodup_append.1 hnodup).1

/-- what an instruction reads was on the stack, and is off it afterwards -/
theorem Layered.of_mem_sources (hstack : Layered offset stack) (hoff : offset < 2 ^ 32)
    (h : op.lower arity (.ofNat offset) stack = .ok (i, after)) {t : Temp} (ht : t ∈ i.sources) :
    t ∈ stack ∧ t ∉ after := by
  obtain ⟨rest, htaken, rfl⟩ := StackOp.lower_exchange h
  have hmem : t ∈ stack := by
    rw [htaken]
    exact List.mem_append_left _ (List.mem_reverse.2 ht)
  refine ⟨hmem, fun hafter => ?_⟩
  rcases List.mem_append.1 hafter with hdest | hrest
  · have hnumber := (translates_lower hoff hstack h).toNat_dest (Option.mem_toList.1 hdest)
    have hlt := hstack.toNat_lt hmem
    omega
  · have hnodup := hstack.nodup
    rw [htaken] at hnodup
    exact (List.nodup_append.1 hnodup).2.2 t (List.mem_reverse.2 ht) t hrest rfl

/-- what is on the stack after an instruction was there before, or is what the instruction sets -/
theorem Layered.of_mem_after (hstack : Layered offset stack) (hoff : offset < 2 ^ 32)
    (h : op.lower arity (.ofNat offset) stack = .ok (i, after)) {t : Temp} (ht : t ∈ after) :
    t ∈ stack ∨ offset ≤ t.toNat := by
  obtain ⟨rest, htaken, rfl⟩ := StackOp.lower_exchange h
  rcases List.mem_append.1 ht with hdest | hrest
  · exact Or.inr ((translates_lower hoff hstack h).toNat_dest (Option.mem_toList.1 hdest)).ge
  · rw [htaken]
    exact Or.inl (List.mem_append_right _ hrest)

end Step

/-! ## All instructions -/

namespace Routine

variable {arity : UInt64} {offset : Nat} {stack : List Temp} {body : List StackOp} {code : List Instr}

/-- code ends where the body first returns -/
theorem emission_eq_ok_split (h : emission arity offset stack body = .ok code) :
    ∃ before tail, body = before ++ .ret :: tail ∧ .ret ∉ before ∧ code.length = before.length + 1 := by
  induction body generalizing offset stack code with
  | nil => cases h
  | cons op rest ih =>
    obtain ⟨i, after, tail, -, rfl, hrest⟩ := emission_cons_eq_ok h
    rcases hrest with ⟨rfl, rfl⟩ | ⟨hret, hrest⟩
    · exact ⟨[], rest, rfl, by simp, rfl⟩
    · obtain ⟨before, left, rfl, hnot, hlen⟩ := ih hrest
      refine ⟨op :: before, left, rfl, ?_, by simp [hlen]⟩
      rintro (_ | ⟨_, hmem⟩)
      · exact hret rfl
      · exact hnot hmem

/-- **All instructions.** From a layered stack on, each instruction translates the operation at its position. -/
theorem translates_emission (h : emission arity offset stack body = .ok code) (hstack : Layered offset stack)
    (hlen : offset + code.length ≤ 2 ^ 32) {k : Nat} {i : Instr} (hi : code[k]? = some i) :
    ∃ op, body[k]? = some op ∧ Translates (offset + k) op i := by
  induction body generalizing offset stack code k with
  | nil => cases h
  | cons op rest ih =>
    obtain ⟨first, after, tail, hop, rfl, hrest⟩ := emission_cons_eq_ok h
    rw [List.length_cons] at hlen
    cases k with
    | zero =>
      cases hi
      exact ⟨op, rfl, translates_lower (by omega) hstack hop⟩
    | succ k =>
      rcases hrest with ⟨rfl, rfl⟩ | ⟨hret, hrest⟩
      · cases hi
      · have hnext : Layered (offset + 1) after := hstack.next (by omega) hop hret
        obtain ⟨op', hop', htranslates⟩ := ih hrest hnext (by omega) hi
        exact ⟨op', hop', by rwa [Nat.add_right_comm] at htranslates⟩

/-- what the code from a position on reads is on the stack there, or set from there on -/
theorem mem_stack_or_le_of_mem_sources (h : emission arity offset stack body = .ok code)
    (hstack : Layered offset stack) (hlen : offset + code.length ≤ 2 ^ 32) {t : Temp}
    (ht : t ∈ code.flatMap Instr.sources) : t ∈ stack ∨ offset ≤ t.toNat := by
  induction body generalizing offset stack code with
  | nil => cases h
  | cons op rest ih =>
    obtain ⟨i, after, tail, hop, rfl, hrest⟩ := emission_cons_eq_ok h
    rw [List.length_cons] at hlen
    have hoff : offset < 2 ^ 32 := by omega
    rw [List.flatMap_cons] at ht
    rcases List.mem_append.1 ht with hfirst | hlater
    · exact Or.inl (hstack.of_mem_sources hoff hop hfirst).1
    · rcases hrest with ⟨-, rfl⟩ | ⟨hret, hrest⟩
      · cases hlater
      · rcases ih hrest (hstack.next hoff hop hret) (by omega) hlater with hafter | hle
        · exact hstack.of_mem_after hoff hop hafter
        · exact Or.inr (by omega)

/-- **Single use.** From a layered stack on, no temporary is read twice. -/
theorem nodup_sources_emission (h : emission arity offset stack body = .ok code) (hstack : Layered offset stack)
    (hlen : offset + code.length ≤ 2 ^ 32) : (code.flatMap Instr.sources).Nodup := by
  induction body generalizing offset stack code with
  | nil => cases h
  | cons op rest ih =>
    obtain ⟨i, after, tail, hop, rfl, hrest⟩ := emission_cons_eq_ok h
    rw [List.length_cons] at hlen
    have hoff : offset < 2 ^ 32 := by omega
    have hfirst : i.sources.Nodup := hstack.nodup_sources hop
    rw [List.flatMap_cons]
    rcases hrest with ⟨-, rfl⟩ | ⟨hret, hrest⟩
    · rw [List.flatMap_nil, List.append_nil]
      exact hfirst
    · have hnext : Layered (offset + 1) after := hstack.next hoff hop hret
      refine List.nodup_append.2 ⟨hfirst, ih hrest hnext (by omega), ?_⟩
      rintro t ht _ hlater rfl
      obtain ⟨hmem, hgone⟩ := hstack.of_mem_sources hoff hop ht
      -- read again, it would be on the stack still, or set anew
      rcases mem_stack_or_le_of_mem_sources hrest hnext (by omega) hlater with hafter | hle
      · exact hgone hafter
      · have hlt : t.toNat < offset := hstack.toNat_lt hmem
        omega

theorem lowerFrom_append_ret (next : Temp) (before tail : List StackOp) (emitted : List Instr) :
    lowerFrom arity offset next stack emitted (before ++ .ret :: tail) =
      lowerFrom arity offset next stack emitted (before ++ [.ret]) := by
  induction before generalizing offset next stack emitted with
  | nil => simp [lowerFrom]
  | cons op before ih => simp only [List.cons_append, lowerFrom, ih]

/-! ## Whole routines -/

variable {f : Routine} {r : Nat}

theorem code_eq_ok_iff : f.code = .ok code ↔ f.lowered = .ok code := by
  rw [Routine.code]
  cases f.lowered <;> simp [Except.mapError]

/-- the code ends with the translation of the first return -/
theorem firstReturn_of_lowered (h : f.lowered = .ok code) : ∃ r, f.FirstReturn r ∧ code.length = r + 1 := by
  rw [lowered_eq_emission] at h
  obtain ⟨before, tail, hbody, hnot, hlen⟩ := emission_eq_ok_split h
  refine ⟨before.length, ⟨by simp [hbody], ?_⟩, hlen⟩
  intro j hj hret
  rw [hbody, List.getElem?_append_left hj] at hret
  exact hnot (List.mem_of_getElem? hret)

theorem code_of_agree (h : f.FirstReturn r) (hagree : body.take (r + 1) = f.body.take (r + 1)) :
    (f.withBody body).code = f.code := by
  have hlowered : (f.withBody body).lowered = f.lowered :=
    h.congr hagree (fun body => (f.withBody body).lowered) fun before tail => lowerFrom_append_ret 0 before tail []
  rw [Routine.code, Routine.code, hlowered]
  rfl

/-- each instruction translates the operation at its position -/
theorem translates_of_lowered (h : f.lowered = .ok code) (hlen : code.length ≤ 2 ^ 32) {k : Nat} {i : Instr}
    (hi : code[k]? = some i) : ∃ op, f.body[k]? = some op ∧ Translates k op i := by
  have hroom : 0 + code.length ≤ 2 ^ 32 := by omega
  rw [lowered_eq_emission] at h
  simpa using translates_emission h (.nil 0) hroom hi

/-- a temporary with a number before the return is set by the instruction with that number -/
theorem exists_setter (h : f.lowered = .ok code) (hlen : code.length ≤ 2 ^ 32) (hr : f.FirstReturn r)
    (hend : code.length = r + 1) {t : Temp} (ht : t.toNat < r) : ∃ i, code[t.toNat]? = some i ∧ i.dest? = some t := by
  have hi : code[t.toNat]? = some code[t.toNat] := List.getElem?_eq_getElem (by omega)
  obtain ⟨op, hop, htranslates⟩ := translates_of_lowered h hlen hi
  have hret : op ≠ .ret := by
    rintro rfl
    exact hr.2 _ ht hop
  obtain ⟨d, hd, hnumber⟩ := htranslates.exists_dest hret
  exact ⟨_, hi, by rw [hd, UInt32.toNat_inj.1 hnumber]⟩

/-- **The shape of lowered code.** Code of a routine ends at the first return of the body, and is the same for all
bodies that agree up to there. As long as that position is a temporary's number: each instruction translates the
operation at its position; temporary k is set by instruction k alone; no temporary is read twice, and none before
it is set. -/
theorem code_shape (h : f.lower.value = .ok code) :
    ∃ r, f.FirstReturn r ∧ code.length = r + 1 ∧
      (∀ body, body.take (r + 1) = f.body.take (r + 1) → (f.withBody body).lower.value = .ok code) ∧
      (r < 2 ^ 32 →
        (∀ k ≤ r, ∃ op i, f.body[k]? = some op ∧ code[k]? = some i ∧ Translates k op i) ∧
        (∀ k < r, ∀ t : Temp, t.toNat = k → ∀ j i, code[j]? = some i → (i.dest? = some t ↔ j = k)) ∧
        (code.flatMap Instr.sources).Nodup ∧
        ∀ (k : Nat) (i : Instr), code[k]? = some i → ∀ t ∈ i.sources,
          ∃ j < k, ∃ earlier : Instr, code[j]? = some earlier ∧ earlier.dest? = some t) := by
  rw [value_lower] at h
  have hlowered : f.lowered = .ok code := code_eq_ok_iff.1 h
  obtain ⟨r, hr, hend⟩ := firstReturn_of_lowered hlowered
  refine ⟨r, hr, hend, fun body hagree => by rw [value_lower, code_of_agree hr hagree, h], fun hbound => ?_⟩
  have hlen : code.length ≤ 2 ^ 32 := by omega
  refine ⟨?_, ?_, nodup_sources_emission (f.lowered_eq_emission ▸ hlowered) (.nil 0) (by omega), ?_⟩
  · intro k hk
    have hi : code[k]? = some code[k] := List.getElem?_eq_getElem (by omega)
    obtain ⟨op, hop, htranslates⟩ := translates_of_lowered hlowered hlen hi
    exact ⟨op, code[k], hop, hi, htranslates⟩
  · rintro k hk t rfl j i hi
    constructor
    · intro hdest
      obtain ⟨op, -, htranslates⟩ := translates_of_lowered hlowered hlen hi
      exact (htranslates.toNat_dest hdest).symm
    · rintro rfl
      obtain ⟨setter, hsetter, hdest⟩ := exists_setter hlowered hlen hr hend hk
      obtain rfl : setter = i := Option.some.inj (hsetter.symm.trans hi)
      exact hdest
  · intro k i hi t ht
    obtain ⟨op, -, htranslates⟩ := translates_of_lowered hlowered hlen hi
    have hlt : t.toNat < k := htranslates.toNat_source_lt ht
    have hk : k < code.length := (List.getElem?_eq_some_iff.1 hi).1
    obtain ⟨earlier, hearlier, hdest⟩ := exists_setter hlowered hlen hr hend (t := t) (by omega)
    exact ⟨t.toNat, hlt, earlier, hearlier, hdest⟩

/-- the sum of one argument and 3, times the other one negated -/
def shiftedProduct : Routine where
  name := "shiftedProduct"
  qualifiedName := ""
  signature := { params := ["shifted", "negated"] }
  body := [.arg 0, .load 3, .binary .add, .arg 1, .neg, .binary .mul, .ret]

def shiftedProductCode : List Instr :=
  [.arg 0 0, .const 1 3, .binary .add 2 0 1, .arg 3 1, .neg 4 3, .binary .mul 5 2 4, .ret 5]

/-- six temporaries, each of them read once; what is added after the return is left out -/
theorem code_shape_shiftedProduct :
    shiftedProduct.lower.value = .ok shiftedProductCode ∧
    (shiftedProduct.withBody (shiftedProduct.body ++ [.neg, .arg 9])).lower.value = .ok shiftedProductCode ∧
    (shiftedProductCode.flatMap Instr.sources).Nodup := by
  have hcode : shiftedProduct.lower.value = .ok shiftedProductCode := rfl
  obtain ⟨r, -, hend, hsame, hshape⟩ := code_shape hcode
  obtain rfl : r = 6 := by simpa [shiftedProductCode] using hend.symm
  exact ⟨hcode, hsame _ rfl, (hshape (by decide)).2.2.1⟩

end Routine

end Graft
