/-
Metadata over whole histories, and the artifact that travels in them.

An edit binds or unbinds one key and leaves every other key alone (`find?_edit`). So edits of other keys neither touch
an artifact that was put in before them (`find?_editAll`) nor notice whether it is there (`editAll_erase`).

A history is any list of edits, artifacts put in and artifacts taken out, the refused removals included (`Op`, `run`). A
key that is unbound stays unbound until an operation inserts it (`find?_run_eq_none`); a removal that succeeds leaves
both keys of the artifact unbound and needs both bound.

`artifact_exchange` puts these together.
-/
import Mathlib.Tactic
import Graft.Lowerer
import Graft.Proofs.Metadata.Artifact

namespace Graft

namespace Metadata

/-! ## Edits -/

/-- a change of one entry -/
inductive Edit where
  | insert (key : String) (value : Value)
  | erase (key : String)
deriving DecidableEq

/-- the key that is changed -/
def Edit.key : Edit → String
  | .insert key _ => key
  | .erase key => key

/-- what the key holds afterwards -/
def Edit.value? : Edit → Option Value
  | .insert _ value => some value
  | .erase _ => none

def edit (m : Metadata) : Edit → Metadata
  | .insert key value => m.insert key value
  | .erase key => m.erase key

/-- the metadata after edits in order -/
def editAll (m : Metadata) (edits : List Edit) : Metadata := edits.foldl edit m

/-- the metadata without the two keys of an artifact -/
def eraseArtifact (m : Metadata) : Metadata := (m.erase pointerKey).erase symbolKey

/-- an edit changes its own key and no other -/
theorem find?_edit (m : Metadata) (e : Edit) (key : String) :
    (m.edit e).find? key = if key = e.key then e.value? else m.find? key := by
  cases e with
  | insert k value => exact NameMap.find?_insert m k value key
  | erase k => exact NameMap.find?_erase m k key

theorem edit_erase {e : Edit} {key : String} (h : e.key ≠ key) (m : Metadata) :
    (m.edit e).erase key = edit (m.erase key) e := by
  apply NameMap.ext_find?
  intro other
  rw [NameMap.find?_erase, find?_edit, find?_edit, NameMap.find?_erase]
  by_cases hkey : other = key
  · have hne : other ≠ e.key := by
      intro heq
      exact h (heq.symm.trans hkey)
    rw [if_pos hkey, if_neg hne, if_pos hkey]
  · rw [if_neg hkey, if_neg hkey]

/-- edits leave what they are not about -/
theorem find?_editAll {edits : List Edit} {key : String} (h : ∀ e ∈ edits, e.key ≠ key) (m : Metadata) :
    (m.editAll edits).find? key = m.find? key := by
  induction edits generalizing m with
  | nil => rfl
  | cons e edits ih =>
    have hne : key ≠ e.key := (h e List.mem_cons_self).symm
    calc ((m.edit e).editAll edits).find? key
        = (m.edit e).find? key := ih (fun e' he' => h e' (List.mem_cons_of_mem _ he')) _
      _ = m.find? key := by rw [find?_edit, if_neg hne]

/-- a key that no edit is about can be unbound before or after them -/
theorem editAll_erase {edits : List Edit} {key : String} (h : ∀ e ∈ edits, e.key ≠ key) (m : Metadata) :
    (m.editAll edits).erase key = editAll (m.erase key) edits := by
  induction edits generalizing m with
  | nil => rfl
  | cons e edits ih =>
    calc ((m.edit e).editAll edits).erase key
        = editAll ((m.edit e).erase key) edits := ih (fun e' he' => h e' (List.mem_cons_of_mem _ he')) _
      _ = editAll (edit (m.erase key) e) edits := by rw [edit_erase (h e List.mem_cons_self)]

/-! ## An artifact put in and taken out -/

/-- without the artifact, the metadata are as if it had never been put in -/
theorem eraseArtifact_insertArtifact (m : Metadata) (a : Artifact) :
    (m.insertArtifact a).eraseArtifact = m.eraseArtifact := by
  apply NameMap.ext_find?
  intro key
  unfold eraseArtifact insertArtifact
  rw [find?_erase_artifact, find?_erase_artifact]
  by_cases hkey : key = pointerKey ∨ key = symbolKey
  · rw [if_pos hkey, if_pos hkey]
  · obtain ⟨hp, hs⟩ := not_or.1 hkey
    rw [if_neg hkey, if_neg hkey, NameMap.find?_insert, if_neg hs, NameMap.find?_insert, if_neg hp]

/-- edits of other keys do not come between an artifact and its taker -/
theorem removeArtifact_editAll {edits : List Edit} (h : ∀ e ∈ edits, e.key ≠ pointerKey ∧ e.key ≠ symbolKey)
    (m : Metadata) (a : Artifact) (function : String) :
    (removeArtifact function).result ((m.insertArtifact a).editAll edits) =
      (.ok a, m.eraseArtifact.editAll edits) := by
  have hp : ∀ e ∈ edits, e.key ≠ pointerKey := fun e he => (h e he).1
  have hs : ∀ e ∈ edits, e.key ≠ symbolKey := fun e he => (h e he).2
  have hrest : m.eraseArtifact.editAll edits = ((m.insertArtifact a).editAll edits).eraseArtifact := by
    calc m.eraseArtifact.editAll edits
        = (m.insertArtifact a).eraseArtifact.editAll edits := by rw [eraseArtifact_insertArtifact]
      _ = (editAll ((m.insertArtifact a).erase pointerKey) edits).erase symbolKey := (editAll_erase hs _).symm
      _ = (((m.insertArtifact a).editAll edits).erase pointerKey).erase symbolKey := by rw [editAll_erase hp]
  refine removeArtifact_eq_ok_iff.2 ⟨?_, ?_, hrest⟩
  · rw [find?_editAll hp, find?_pointerKey_insertArtifact]
  · rw [find?_editAll hs, find?_symbolKey_insertArtifact]

/-- an artifact is removed when the two keys hold a pointer and a string -/
theorem removeArtifact_ok_iff (m : Metadata) (function : String) :
    (∃ a rest, (removeArtifact function).result m = (.ok a, rest)) ↔
      (∃ address, m.find? pointerKey = some (.pointer address)) ∧ ∃ symbol, m.find? symbolKey = some (.str symbol) := by
  constructor
  · intro ⟨a, rest, hremove⟩
    obtain ⟨hp, hs, -⟩ := removeArtifact_eq_ok_iff.1 hremove
    exact ⟨⟨a.address, hp⟩, a.symbol, hs⟩
  · intro ⟨⟨address, hp⟩, symbol, hs⟩
    exact ⟨⟨address, symbol⟩, _, removeArtifact_eq_ok_iff.2 ⟨hp, hs, rfl⟩⟩

/-! ## Histories -/

/-- what can be done to metadata -/
inductive Op where
  | edit (e : Edit)
  | insertArtifact (a : Artifact)
  | removeArtifact (function : String)
deriving DecidableEq

/-- the metadata after an operation, ended or refused -/
def after (m : Metadata) : Op → Metadata
  | .edit e => m.edit e
  | .insertArtifact a => m.insertArtifact a
  | .removeArtifact function => ((removeArtifact function).result m).2

/-- the metadata after operations in order -/
def run (m : Metadata) (ops : List Op) : Metadata := ops.foldl after m

/-- the operation binds the key -/
def Op.Inserts (key : String) : Op → Prop
  | .edit (.insert k _) => k = key
  | .edit (.erase _) => False
  | .insertArtifact _ => key = pointerKey ∨ key = symbolKey
  | .removeArtifact _ => False

/-- the operation at a position of the history takes an artifact out, and is not refused -/
def TakesAt (m : Metadata) (ops : List Op) (i : Nat) : Prop :=
  ∃ function a rest, ops[i]? = some (.removeArtifact function) ∧
    (removeArtifact function).result (m.run (ops.take i)) = (.ok a, rest)

variable {m : Metadata} {ops : List Op} {key : String}

theorem run_append (m : Metadata) (ops later : List Op) : m.run (ops ++ later) = (m.run ops).run later :=
  List.foldl_append

theorem find?_after_eq_none {op : Op} (hop : ¬ op.Inserts key) (h : m.find? key = none) :
    (m.after op).find? key = none := by
  cases op with
  | edit e =>
    rw [after, find?_edit]
    split_ifs with hkey
    · cases e with
      | insert k value => exact absurd hkey.symm hop
      | erase k => rfl
    · exact h
  | insertArtifact a =>
    obtain ⟨hp, hs⟩ := not_or.1 hop
    rw [after, insertArtifact, NameMap.find?_insert, if_neg hs, NameMap.find?_insert, if_neg hp, h]
  | removeArtifact function =>
    rw [after]
    rcases removeArtifact_cases m function with ⟨a, -, -, hremove⟩ | ⟨e, -, hremove⟩
    · rw [hremove, find?_erase_artifact, h, ite_self]
    · rw [hremove, h]

/-- what is unbound stays unbound until it is inserted -/
theorem find?_run_eq_none (hops : ∀ op ∈ ops, ¬ op.Inserts key) (h : m.find? key = none) :
    (m.run ops).find? key = none := by
  induction ops generalizing m with
  | nil => exact h
  | cons op ops ih =>
    apply ih
    · intro op' hop'
      exact hops op' (List.mem_cons_of_mem _ hop')
    · exact find?_after_eq_none (hops op List.mem_cons_self) h

/-- both keys of the artifact are bound when it is taken -/
theorem TakesAt.bound {i : Nat} (h : TakesAt m ops i) (hkey : key = pointerKey ∨ key = symbolKey) :
    (m.run (ops.take i)).find? key ≠ none := by
  obtain ⟨function, a, rest, -, hremove⟩ := h
  obtain ⟨hp, hs, -⟩ := removeArtifact_eq_ok_iff.1 hremove
  rcases hkey with rfl | rfl
  · simp [hp]
  · simp [hs]

/-- neither key of the artifact is bound once it was taken -/
theorem TakesAt.unbound {i : Nat} (h : TakesAt m ops i) (hkey : key = pointerKey ∨ key = symbolKey) :
    (m.run (ops.take (i + 1))).find? key = none := by
  obtain ⟨function, a, rest, hop, hremove⟩ := h
  have hrest : m.run (ops.take (i + 1)) = rest := by
    rw [List.take_add_one, hop, run_append]
    show (m.run (ops.take i)).after (.removeArtifact function) = rest
    rw [after, hremove]
  obtain ⟨-, -, herased⟩ := removeArtifact_eq_ok_iff.1 hremove
  rw [hrest, herased, find?_erase_artifact, if_pos hkey]

/-- between two removals both keys of the artifact are inserted again -/
theorem TakesAt.inserts_between {i j : Nat} (hi : TakesAt m ops i) (hj : TakesAt m ops j) (hij : i < j)
    (hkey : key = pointerKey ∨ key = symbolKey) : ∃ k op, i < k ∧ k < j ∧ ops[k]? = some op ∧ op.Inserts key := by
  by_contra hnone
  -- the operations after the one at `i` and before the one at `j`
  have hsplit : ops.take j = ops.take (i + 1) ++ (ops.take j).drop (i + 1) := by
    calc ops.take j
        = (ops.take j).take (i + 1) ++ (ops.take j).drop (i + 1) := (List.take_append_drop _ _).symm
      _ = ops.take (i + 1) ++ (ops.take j).drop (i + 1) := by rw [List.take_take, Nat.min_eq_left hij]
  have hquiet : ∀ op ∈ (ops.take j).drop (i + 1), ¬ op.Inserts key := by
    intro op hop hinserts
    obtain ⟨n, hn⟩ := List.getElem?_of_mem hop
    rw [List.getElem?_drop, List.getElem?_take] at hn
    split_ifs at hn with hlt
    exact hnone ⟨i + 1 + n, op, by omega, hlt, hn, hinserts⟩
  apply hj.bound hkey
  rw [hsplit, run_append]
  exact find?_run_eq_none hquiet (hi.unbound hkey)

/-- **An artifact changes hands through metadata.** (1) One that was put in comes out as it was, whatever entries under
other keys were inserted and erased since; what remains is what these edits make of the metadata without any artifact.
(2) A removal succeeds exactly when the pointer key holds a pointer and the symbol key a string. (3) A removal that is
refused has changed nothing, neither in the metadata nor on the bench they are part of. (4) In any history, between any
two removals that succeed both keys are inserted again. -/
theorem artifact_exchange (m : Metadata) :
    (∀ a edits function, (∀ e ∈ edits, e.key ≠ pointerKey ∧ e.key ≠ symbolKey) →
      (removeArtifact function).result ((m.insertArtifact a).editAll edits) =
        (.ok a, m.eraseArtifact.editAll edits)) ∧
    (∀ function, (∃ a rest, (removeArtifact function).result m = (.ok a, rest)) ↔
      (∃ address, m.find? pointerKey = some (.pointer address)) ∧ ∃ symbol, m.find? symbolKey = some (.str symbol)) ∧
    (∀ function e rest, (removeArtifact function).result m = (.error e, rest) → rest = m) ∧
    (∀ function b e b', (Workbench.onMetadata (removeArtifact function)).result b = (.error e, b') → b' = b) ∧
    ∀ ops i j key, i < j → TakesAt m ops i → TakesAt m ops j → key = pointerKey ∨ key = symbolKey →
      ∃ k op, i < k ∧ k < j ∧ ops[k]? = some op ∧ op.Inserts key := by
  refine ⟨?_, removeArtifact_ok_iff m, ?_, ?_, ?_⟩
  · intro a edits function hedits
    exact removeArtifact_editAll hedits m a function
  · intro function e rest hrefused
    exact (removeArtifact_eq_error_iff.1 hrefused).2
  · intro function b e b' hrefused
    rw [Workbench.onMetadata, Action.result_focus] at hrefused
    rcases removeArtifact_cases b.metadata function with ⟨a, -, -, hremove⟩ | ⟨e', -, hremove⟩
    · rw [hremove] at hrefused
      cases hrefused
    · rw [hremove] at hrefused
      cases hrefused
      rfl
  · intro ops i j key hij hi hj hkey
    exact hi.inserts_between hj hij hkey

-- the artifact is put in whole the first time, and key by key the second, around a removal that is refused
example :
    let ops : List Op := [.insertArtifact ⟨⟨16⟩, "f"⟩, .removeArtifact "f", .edit (.insert symbolKey (.str "g")),
      .removeArtifact "g", .edit (.insert pointerKey (.pointer ⟨32⟩)), .removeArtifact "g"]
    TakesAt NameMap.empty ops 1 ∧ TakesAt NameMap.empty ops 5 :=
  ⟨⟨_, _, _, rfl, rfl⟩, ⟨_, _, _, rfl, rfl⟩⟩

end Metadata

end Graft
