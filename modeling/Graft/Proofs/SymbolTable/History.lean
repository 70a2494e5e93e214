/-
Symbol tables over whole histories of registrations.

`answer` and `after` are what one call comes to and the table it leaves, `build` is the table after a list of calls. A
call looks at nothing in the table but the binding of its own name (`answer_congr`), and changes nothing else
(`find?_after`). So

- `find?_build`: a name is bound to the last address under it that is not null;
- `find?_build_take_iff`: the same for the table before any call of the history, by the position of the call that
  counts;
- `Reordering.find?_eq`: two orders of the same calls, with the calls under each name in the same order, have the same
  binding of a name at corresponding places.

`registration_law` puts these together.
-/
import Mathlib.Tactic
import Graft.Proofs.Library.Effect

namespace Graft

/-- a call of `SymbolTable.register` -/
structure Registration where
  name : String
  address : Address
deriving DecidableEq

/-- the call leaves the name bound to its address -/
def Registration.Binds (c : Registration) (name : String) : Prop := c.name = name ∧ c.address.isNull = false

instance (c : Registration) (name : String) : Decidable (c.Binds name) :=
  inferInstanceAs (Decidable (c.name = name ∧ c.address.isNull = false))

namespace NameMap

variable {α : Type}

/-- the size of a map is the number of names that are bound -/
theorem size_eq_ncard (m : NameMap α) : m.size = {name | (m.find? name).isSome}.ncard := by
  have hnodup : m.names.Nodup := by
    apply m.pairwise_names.imp
    intro a b hlt heq
    exact String.lt_irrefl b (heq ▸ hlt)
  have hbound : {name | (m.find? name).isSome} = ↑m.names.toFinset := by
    ext name
    rw [Set.mem_ofPred_eq, ← mem_names_iff, Finset.mem_coe, List.mem_toFinset]
  rw [hbound, Set.ncard_coe_finset, List.toFinset_card_of_nodup hnodup, names, List.length_map, size]

end NameMap

namespace SymbolTable

/-- what a call is answered over a table -/
def answer (t : SymbolTable) (c : Registration) : Except Error Bool := ((register c.name c.address).result t).1

/-- the table that a call leaves, accepted or refused -/
def after (t : SymbolTable) (c : Registration) : SymbolTable := ((register c.name c.address).result t).2

/-- the table after calls in order, the refused ones included, from the empty table -/
def build (calls : List Registration) : SymbolTable := calls.foldl after NameMap.empty

/-- what the call at a position of a history is answered -/
def answerAt (calls : List Registration) (i : Fin calls.length) : Except Error Bool :=
  (build (calls.take i)).answer (calls.get i)

/-! ## One call -/

theorem answer_eq (t : SymbolTable) (c : Registration) :
    t.answer c = if c.address.isNull then .error (.codegen (.nullSymbol c.name))
      else .ok (decide (t.find? c.name ≠ some c.address)) := by
  unfold answer
  split_ifs with hnull
  · rw [result_register_of_isNull hnull]
  · rw [result_register (by simpa using hnull)]

theorem after_eq (t : SymbolTable) (c : Registration) :
    t.after c = if c.address.isNull then t else t.insert c.name c.address := by
  unfold after
  split_ifs with hnull
  · rw [result_register_of_isNull hnull]
  · rw [result_register (by simpa using hnull)]

/-- a call changes the binding of its own name, and only when its address is not null -/
theorem find?_after (t : SymbolTable) (c : Registration) (name : String) :
    (t.after c).find? name = if c.Binds name then some c.address else t.find? name := by
  rw [after_eq]
  by_cases hnull : c.address.isNull = true
  · simp [Registration.Binds, hnull]
  · rw [if_neg hnull, NameMap.find?_insert]
    simp [Registration.Binds, hnull, eq_comm]

/-- the answer depends on the binding of the call's own name alone -/
theorem answer_congr {t t' : SymbolTable} {c : Registration} (h : t.find? c.name = t'.find? c.name) :
    t.answer c = t'.answer c := by
  rw [answer_eq, answer_eq, h]

/-- no name is bound to the null address -/
def NoNull (t : SymbolTable) : Prop := ∀ name address, t.find? name = some address → address.isNull = false

theorem NoNull.after {t : SymbolTable} (h : NoNull t) (c : Registration) : NoNull (t.after c) := by
  intro name address hbound
  rw [find?_after] at hbound
  split_ifs at hbound with hbinds
  · cases hbound
    exact hbinds.2
  · exact h name address hbound

theorem answer_eq_true_iff (t : SymbolTable) (c : Registration) : t.answer c = .ok true ↔ t.after c ≠ t := by
  rw [answer_eq, after_eq]
  split_ifs with hnull
  · simp
  · have hsame : t.insert c.name c.address = t ↔ t.find? c.name = some c.address := by
      constructor
      · intro h
        rw [← h, NameMap.find?_insert_self]
      · exact NameMap.insert_of_find?
    simp [hsame]

/-- in a table without null addresses, nothing has changed when the name was bound to the address before -/
theorem answer_eq_false_iff {t : SymbolTable} (h : NoNull t) (c : Registration) :
    t.answer c = .ok false ↔ t.find? c.name = some c.address := by
  rw [answer_eq]
  split_ifs with hnull
  · have hunbound : t.find? c.name ≠ some c.address := by
      intro hbound
      rw [h _ _ hbound] at hnull
      cases hnull
    simp [hunbound]
  · simp

theorem answer_eq_error_iff (t : SymbolTable) (c : Registration) :
    (∃ e, t.answer c = .error e) ↔ c.address.isNull = true := by
  rw [answer_eq]
  split_ifs with hnull <;> simp [hnull]

/-! ## Whole histories -/

theorem build_concat (calls : List Registration) (c : Registration) : build (calls ++ [c]) = (build calls).after c := by
  simp [build]

theorem build_take_succ {calls : List Registration} (i : Fin calls.length) :
    build (calls.take (i + 1)) = (build (calls.take i)).after (calls.get i) := by
  rw [List.take_succ_eq_append_getElem i.isLt, build_concat]
  rfl

theorem noNull_build (calls : List Registration) : NoNull (build calls) := by
  induction calls using List.reverseRecOn with
  | nil =>
    intro name address hbound
    cases hbound
  | append_singleton calls c ih =>
    rw [build_concat]
    exact ih.after c

/-- the last address under a name that is not null -/
def lastBound? (calls : List Registration) (name : String) : Option Address :=
  (calls.reverse.find? fun c => c.Binds name).map (·.address)

theorem find?_build (calls : List Registration) (name : String) : (build calls).find? name = lastBound? calls name := by
  induction calls using List.reverseRecOn with
  | nil => rfl
  | append_singleton calls c ih =>
    rw [build_concat, find?_after, ih, lastBound?, lastBound?, List.reverse_append, List.reverse_singleton,
      List.singleton_append, List.find?_cons]
    by_cases hbinds : c.Binds name
    · simp [hbinds]
    · simp [hbinds]

/-- the call at position `j` is the last of the first `n` to bind the name -/
def LastBefore (calls : List Registration) (n : Nat) (name : String) (j : Fin calls.length) : Prop :=
  j < n ∧ (calls.get j).Binds name ∧ ∀ k : Fin calls.length, j < k → k < n → ¬ (calls.get k).Binds name

/-- a call that does not bind the name may be counted or not -/
theorem lastBefore_succ_iff {calls : List Registration} {n : Nat} (hn : n < calls.length) {name : String}
    (hnot : ¬ (calls.get ⟨n, hn⟩).Binds name) (j : Fin calls.length) :
    LastBefore calls (n + 1) name j ↔ LastBefore calls n name j := by
  -- a position below `n + 1` that binds the name is below `n`
  have hbelow (k : Fin calls.length) (hk : k < n + 1) (hbinds : (calls.get k).Binds name) : k < n := by
    by_contra hge
    obtain rfl : k = ⟨n, hn⟩ := Fin.ext (by simp only; omega)
    exact hnot hbinds
  constructor
  · rintro ⟨hlt, hbinds, hlast⟩
    exact ⟨hbelow j hlt hbinds, hbinds, fun k hjk hk => hlast k hjk (by omega)⟩
  · rintro ⟨hlt, hbinds, hlast⟩
    refine ⟨by omega, hbinds, fun k hjk hk hkbinds => ?_⟩
    exact hlast k hjk (hbelow k hk hkbinds) hkbinds

/-- the binding of a name after the first `n` calls is that of the last of them to bind it -/
theorem find?_build_take_iff {calls : List Registration} {n : Nat} (hn : n ≤ calls.length) (name : String)
    (address : Address) :
    (build (calls.take n)).find? name = some address ↔
      ∃ j, LastBefore calls n name j ∧ (calls.get j).address = address := by
  induction n with
  | zero =>
    constructor
    · intro h
      cases h
    · rintro ⟨j, ⟨hlt, -⟩, -⟩
      omega
  | succ n ih =>
    have hlen : n < calls.length := hn
    rw [build_take_succ ⟨n, hlen⟩, find?_after]
    split_ifs with hbinds
    · constructor
      · intro h
        refine ⟨⟨n, hlen⟩, ⟨Nat.lt_succ_self n, hbinds, fun k hnk hk => ?_⟩, Option.some.inj h⟩
        have : n < (k : Nat) := hnk
        omega
      · rintro ⟨j, ⟨hlt, -, hlast⟩, rfl⟩
        -- the call at `n` binds the name too, so none before it is the last
        have hj : ¬ (j : Nat) < n := fun h => hlast ⟨n, hlen⟩ h (Nat.lt_succ_self n) hbinds
        obtain rfl : j = ⟨n, hlen⟩ := Fin.ext (by simp only; omega)
        rfl
    · rw [ih (Nat.le_of_lt hlen)]
      exact exists_congr fun j => and_congr_left fun _ => (lastBefore_succ_iff hlen hbinds j).symm

/-! ## Other orders -/

/-- the same calls at other places, with the calls under each name in the same order -/
structure Reordering (calls calls' : List Registration) where
  place : Fin calls.length ≃ Fin calls'.length
  same : ∀ i, calls'.get (place i) = calls.get i
  keeps : ∀ i j, (calls.get i).name = (calls.get j).name → i < j → place i < place j

namespace Reordering

variable {calls calls' : List Registration} (r : Reordering calls calls')

theorem place_lt_iff {i j : Fin calls.length} (h : (calls.get i).name = (calls.get j).name) :
    r.place i < r.place j ↔ i < j := by
  constructor
  · intro hlt
    rcases lt_trichotomy i j with hij | rfl | hji
    · exact hij
    · exact absurd hlt (lt_irrefl _)
    · exact absurd hlt (lt_asymm (r.keeps j i h.symm hji))
  · exact r.keeps i j h

/-- places below `n` and `n'` that are filled by the same calls under a name have the same last call to bind it -/
theorem lastBefore_place_iff {n n' : Nat} {name : String}
    (hn : ∀ i, (calls.get i).name = name → ((r.place i : Nat) < n' ↔ (i : Nat) < n)) (j : Fin calls.length) :
    LastBefore calls' n' name (r.place j) ↔ LastBefore calls n name j := by
  unfold LastBefore
  rw [r.same]
  constructor
  · rintro ⟨hlt, hbinds, hlast⟩
    refine ⟨(hn j hbinds.1).1 hlt, hbinds, fun k hjk hk hkbinds => ?_⟩
    have hjk' : r.place j < r.place k := r.keeps j k (hbinds.1.trans hkbinds.1.symm) hjk
    exact hlast (r.place k) hjk' ((hn k hkbinds.1).2 hk) (by rwa [r.same])
  · rintro ⟨hlt, hbinds, hlast⟩
    refine ⟨(hn j hbinds.1).2 hlt, hbinds, fun k' hjk hk hkbinds => ?_⟩
    obtain ⟨k, rfl⟩ := r.place.surjective k'
    rw [r.same] at hkbinds
    have hjk' : j < k := (r.place_lt_iff (hbinds.1.trans hkbinds.1.symm)).1 hjk
    exact hlast k hjk' ((hn k hkbinds.1).1 hk) hkbinds

theorem find?_eq {n n' : Nat} (hle : n ≤ calls.length) (hle' : n' ≤ calls'.length) {name : String}
    (hn : ∀ i, (calls.get i).name = name → ((r.place i : Nat) < n' ↔ (i : Nat) < n)) :
    (build (calls'.take n')).find? name = (build (calls.take n)).find? name := by
  apply Option.ext
  intro address
  rw [find?_build_take_iff hle, find?_build_take_iff hle']
  constructor
  · rintro ⟨j', hlast, haddress⟩
    obtain ⟨j, rfl⟩ := r.place.surjective j'
    exact ⟨j, (r.lastBefore_place_iff hn j).1 hlast, by rw [← haddress, r.same]⟩
  · rintro ⟨j, hlast, haddress⟩
    exact ⟨r.place j, (r.lastBefore_place_iff hn j).2 hlast, by rw [← haddress, r.same]⟩

/-- a reordering leaves the same table -/
theorem build_eq (r : Reordering calls calls') : build calls' = build calls := by
  apply NameMap.ext_find?
  intro name
  have hall : (build (calls'.take calls'.length)).find? name = (build (calls.take calls.length)).find? name :=
    r.find?_eq le_rfl le_rfl fun i _ => ⟨fun _ => i.isLt, fun _ => (r.place i).isLt⟩
  rwa [List.take_length, List.take_length] at hall

/-- a reordering gives every call the same answer -/
theorem answerAt_eq (i : Fin calls.length) : answerAt calls' (r.place i) = answerAt calls i := by
  unfold answerAt
  rw [r.same]
  apply answer_congr
  -- before the call, the same calls under its name have been made
  exact r.find?_eq (Nat.le_of_lt i.isLt) (Nat.le_of_lt (r.place i).isLt) fun j hj => r.place_lt_iff hj

end Reordering

/-- **The law of registration**, for every history of calls on the empty table. Afterwards a name is bound to the last
address under it that was not null, if there was one, and to nothing else; so no bound address is null. The names ascend
and are the bound ones, and the size is their number. A call says `true` exactly when it changed the table, `false`
exactly when the name was bound to the address already, and is refused exactly when the address is null, which changes
nothing. And in any other order of the calls that keeps the order of those under the same name, the table is the same in
the end and every call has the same answer. -/
theorem registration_law (calls : List Registration) :
    (∀ name, (build calls).find? name = lastBound? calls name) ∧
    (∀ name address, (build calls).find? name = some address → address.isNull = false) ∧
    (build calls).names.Pairwise (· < ·) ∧
    (∀ name, name ∈ (build calls).names ↔ ((build calls).find? name).isSome) ∧
    (build calls).size = {name | ((build calls).find? name).isSome}.ncard ∧
    (∀ i : Fin calls.length,
      (answerAt calls i = .ok true ↔ build (calls.take (i + 1)) ≠ build (calls.take i)) ∧
      (answerAt calls i = .ok false ↔ (build (calls.take i)).find? (calls.get i).name = some (calls.get i).address) ∧
      ((∃ e, answerAt calls i = .error e) ↔ (calls.get i).address.isNull = true) ∧
      ∀ e, answerAt calls i = .error e → build (calls.take (i + 1)) = build (calls.take i)) ∧
    ∀ calls' (r : Reordering calls calls'),
      build calls' = build calls ∧ ∀ i, answerAt calls' (r.place i) = answerAt calls i := by
  refine ⟨find?_build calls, noNull_build calls, (build calls).pairwise_names, (build calls).mem_names_iff,
    (build calls).size_eq_ncard, ?_, ?_⟩
  · intro i
    rw [build_take_succ i]
    refine ⟨answer_eq_true_iff _ _, answer_eq_false_iff (noNull_build _) _, answer_eq_error_iff _ _, ?_⟩
    intro e he
    have hnull : (calls.get i).address.isNull = true := (answer_eq_error_iff _ _).1 ⟨e, he⟩
    rw [after_eq, if_pos hnull]
  · intro calls' r
    exact ⟨r.build_eq, r.answerAt_eq⟩

/-- a history that binds `f` twice around a refused call, with a call under `g` in between -/
def rebound : List Registration := [⟨"f", ⟨16⟩⟩, ⟨"g", ⟨48⟩⟩, ⟨"f", Address.null⟩, ⟨"f", ⟨32⟩⟩]

-- the call under `g` may come first
example : Nonempty (Reordering rebound [⟨"g", ⟨48⟩⟩, ⟨"f", ⟨16⟩⟩, ⟨"f", Address.null⟩, ⟨"f", ⟨32⟩⟩]) :=
  ⟨⟨show Fin 4 ≃ Fin 4 from Equiv.swap 0 1, by decide, by decide⟩⟩

example : (build rebound).find? "f" = some ⟨32⟩ ∧ (build rebound).names = ["f", "g"] := ⟨rfl, rfl⟩

end SymbolTable

end Graft
