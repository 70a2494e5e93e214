/-
Artifacts in metadata: when one can be taken, and what stands in the way.

`removeArtifact_eq_ok_iff`: an artifact is removed when the pointer key holds a pointer and the symbol key a string, and
then both keys are gone and every other entry is kept (`find?_erase_artifact`). `removeArtifact_eq_error_iff`: otherwise
the error is about the first of the two that is missing or holds something else (`Lacks`), and the metadata are as
before.

`takeArtifact_eq_ok_iff` and `takeArtifact_eq_error_iff` say it of the outcome, and `result_removeArtifact` goes back
from the outcome to the removal.
-/
import Mathlib.Tactic
import Graft.Metadata

namespace Graft.Metadata

variable {m : Metadata} {function : String}

/-- why `function` gets no artifact: a key is missing, or holds a value of another kind; the pointer key comes first -/
inductive Lacks (m : Metadata) (function : String) : Error → Prop where
  | pointer (h : m.find? pointerKey = none) : Lacks m function (.missingArtifact function pointerKey)
  | pointerKind {held : Value} (h : m.find? pointerKey = some held) (hkind : ∀ address, held ≠ .pointer address) :
    Lacks m function (.internal (.notAPointer pointerKey held))
  | symbol {address : Address} (hp : m.find? pointerKey = some (.pointer address)) (h : m.find? symbolKey = none) :
    Lacks m function (.missingArtifact function symbolKey)
  | symbolKind {address : Address} {held : Value} (hp : m.find? pointerKey = some (.pointer address))
    (h : m.find? symbolKey = some held) (hkind : ∀ s, held ≠ .str s) :
    Lacks m function (.internal (.notAString symbolKey held))

/-- both checks come before both removals -/
theorem removeArtifact_eq_checks (m : Metadata) (function : String) :
    (removeArtifact function).result m =
      match artifactAddress m function, artifactSymbol m function with
      | .ok address, .ok symbol => (.ok ⟨address, symbol⟩, (m.erase pointerKey).erase symbolKey)
      | .ok _, .error e => (.error e, m)
      | .error e, _ => (.error e, m) := by
  simp only [removeArtifact, Action.result_bind, Action.result_read, Action.result_ofExcept]
  cases artifactAddress m function with
  | error e => rfl
  | ok address => cases artifactSymbol m function <;> rfl

/-- every request has an artifact to remove, with both keys, or lacks one for a reason, and then nothing changes -/
theorem removeArtifact_cases (m : Metadata) (function : String) :
    (∃ a, m.find? pointerKey = some (.pointer a.address) ∧ m.find? symbolKey = some (.str a.symbol) ∧
      (removeArtifact function).result m = (.ok a, (m.erase pointerKey).erase symbolKey)) ∨
    ∃ e, m.Lacks function e ∧ (removeArtifact function).result m = (.error e, m) := by
  rw [removeArtifact_eq_checks, artifactAddress, artifactSymbol]
  cases hp : m.find? pointerKey with
  | none => exact Or.inr ⟨_, .pointer hp, rfl⟩
  | some held =>
    cases held with
    | str s => exact Or.inr ⟨_, .pointerKind hp (by simp), rfl⟩
    | int v => exact Or.inr ⟨_, .pointerKind hp (by simp), rfl⟩
    | bool b => exact Or.inr ⟨_, .pointerKind hp (by simp), rfl⟩
    | pointer address =>
      cases hs : m.find? symbolKey with
      | none => exact Or.inr ⟨_, .symbol hp hs, rfl⟩
      | some held =>
        cases held with
        | str s => exact Or.inl ⟨⟨address, s⟩, rfl, rfl, rfl⟩
        | pointer a => exact Or.inr ⟨_, .symbolKind hp hs (by simp), rfl⟩
        | int v => exact Or.inr ⟨_, .symbolKind hp hs (by simp), rfl⟩
        | bool b => exact Or.inr ⟨_, .symbolKind hp hs (by simp), rfl⟩

/-- what a refused request lacks is no artifact that could be taken -/
theorem Lacks.not_taken {e : Error} (h : m.Lacks function e) {a : Artifact}
    (hp : m.find? pointerKey = some (.pointer a.address)) (hs : m.find? symbolKey = some (.str a.symbol)) : False := by
  cases h with
  | pointer h => simp [h] at hp
  | pointerKind h hkind => exact hkind a.address (Option.some.inj (h.symm.trans hp))
  | symbol _ h => simp [h] at hs
  | symbolKind _ h hkind => exact hkind a.symbol (Option.some.inj (h.symm.trans hs))

/-- what the metadata lack is what the removal reports -/
theorem Lacks.result_removeArtifact {e : Error} (h : m.Lacks function e) :
    (removeArtifact function).result m = (.error e, m) := by
  rw [removeArtifact_eq_checks, artifactAddress, artifactSymbol]
  cases h with
  | pointer h => rw [h]
  | @pointerKind held h hkind =>
    rw [h]
    cases held with
    | pointer address => exact (hkind address rfl).elim
    | str s => rfl
    | int v => rfl
    | bool b => rfl
  | symbol hp h => rw [hp, h]
  | @symbolKind address held hp h hkind =>
    rw [hp, h]
    cases held with
    | str s => exact (hkind s rfl).elim
    | pointer a => rfl
    | int v => rfl
    | bool b => rfl

theorem removeArtifact_eq_ok_iff {a : Artifact} {rest : Metadata} :
    (removeArtifact function).result m = (.ok a, rest) ↔
      m.find? pointerKey = some (.pointer a.address) ∧ m.find? symbolKey = some (.str a.symbol) ∧
        rest = (m.erase pointerKey).erase symbolKey := by
  rcases removeArtifact_cases m function with ⟨b, hp, hs, hremove⟩ | ⟨e, hlacks, hremove⟩
  · rw [hremove, hp, hs]
    constructor
    · intro h
      cases h
      exact ⟨rfl, rfl, rfl⟩
    · rintro ⟨hp, hs, rfl⟩
      obtain ⟨address, symbol⟩ := a
      obtain rfl : b.address = address := by simpa using hp
      obtain rfl : b.symbol = symbol := by simpa using hs
      rfl
  · rw [hremove]
    constructor
    · intro h
      cases h
    · rintro ⟨hp, hs, -⟩
      exact (hlacks.not_taken hp hs).elim

/-- a removal is refused for what the metadata lack, and has changed nothing then -/
theorem removeArtifact_eq_error_iff {e : Error} {rest : Metadata} :
    (removeArtifact function).result m = (.error e, rest) ↔ m.Lacks function e ∧ rest = m := by
  constructor
  · intro h
    rcases removeArtifact_cases m function with ⟨a, -, -, hremove⟩ | ⟨e', hlacks, hremove⟩
    · rw [hremove] at h
      cases h
    · rw [hremove] at h
      cases h
      exact ⟨hlacks, rfl⟩
  · rintro ⟨h, rfl⟩
    exact h.result_removeArtifact

/-! ## The outcome -/

theorem takeArtifact_eq_ok_iff {a : Artifact} {rest : Metadata} :
    m.takeArtifact function = .ok (a, rest) ↔
      m.find? pointerKey = some (.pointer a.address) ∧ m.find? symbolKey = some (.str a.symbol) ∧
        rest = (m.erase pointerKey).erase symbolKey := by
  have hsame : m.takeArtifact function = .ok (a, rest) ↔ (removeArtifact function).result m = (.ok a, rest) := by
    rw [takeArtifact]
    rcases (removeArtifact function).result m with ⟨e | b, left⟩ <;> simp
  exact hsame.trans removeArtifact_eq_ok_iff

theorem takeArtifact_eq_error_iff {e : Error} : m.takeArtifact function = .error e ↔ m.Lacks function e := by
  constructor
  · intro h
    rcases hremove : (removeArtifact function).result m with ⟨e' | a, rest⟩
    · rw [takeArtifact, hremove] at h
      cases h
      exact (removeArtifact_eq_error_iff.1 hremove).1
    · rw [takeArtifact, hremove] at h
      cases h
  · intro h
    rw [takeArtifact, h.result_removeArtifact]

/-- the removal is known from its outcome -/
theorem result_removeArtifact (m : Metadata) (function : String) :
    (removeArtifact function).result m =
      match m.takeArtifact function with
      | .ok (a, rest) => (.ok a, rest)
      | .error e => (.error e, m) := by
  rcases removeArtifact_cases m function with ⟨a, -, -, hremove⟩ | ⟨e, -, hremove⟩
  · rw [takeArtifact, hremove]
  · rw [takeArtifact, hremove]

/-! ## The entries -/

theorem find?_pointerKey_insertArtifact (m : Metadata) (a : Artifact) :
    (m.insertArtifact a).find? pointerKey = some (.pointer a.address) := by
  rw [insertArtifact, NameMap.find?_insert, if_neg (by decide), NameMap.find?_insert, if_pos rfl]

theorem find?_symbolKey_insertArtifact (m : Metadata) (a : Artifact) :
    (m.insertArtifact a).find? symbolKey = some (.str a.symbol) := by
  rw [insertArtifact, NameMap.find?_insert, if_pos rfl]

/-- taking the artifact out unbinds its two keys, and keeps every other entry -/
theorem find?_erase_artifact (m : Metadata) (key : String) :
    ((m.erase pointerKey).erase symbolKey).find? key =
      if key = pointerKey ∨ key = symbolKey then none else m.find? key := by
  rw [NameMap.find?_erase, NameMap.find?_erase]
  by_cases hs : key = symbolKey <;> by_cases hp : key = pointerKey <;> simp [hs, hp]

/-- both keys are gone once the artifact is taken -/
theorem find?_of_takeArtifact {a : Artifact} {rest : Metadata} (h : m.takeArtifact function = .ok (a, rest)) :
    rest.find? pointerKey = none ∧ rest.find? symbolKey = none := by
  obtain ⟨-, -, rfl⟩ := takeArtifact_eq_ok_iff.1 h
  rw [find?_erase_artifact, find?_erase_artifact]
  exact ⟨by simp, by simp⟩

end Graft.Metadata
