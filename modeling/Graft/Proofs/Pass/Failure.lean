/-
A lowering that fails leaves the state alone.

Lowering takes the artifact out of the metadata, binds its symbol, gives the module to the library and resolves the
entry, in this order, and each of these steps can stop. In a new library only what comes before the binding does
(`lowering_eq_error_iff`): a body without three-address code, metadata without an artifact, and an artifact with a null
address (`Refusal`). Of these the last alone has changed something before, and that is the metadata.

`failed_lowering_keeps_state` says so for every part of the state.
-/
import Mathlib.Tactic
import Graft.Proofs.Metadata.Artifact
import Graft.Proofs.Pass.Effect

namespace Graft

namespace Metadata

/-- the metadata have an artifact to take, and its address is null -/
def OffersNull (m : Metadata) : Prop :=
  ∃ a : Artifact, m.find? pointerKey = some (.pointer a.address) ∧ m.find? symbolKey = some (.str a.symbol) ∧
    a.address.isNull = true

/-- what lacks an artifact offers none -/
theorem Lacks.not_offersNull {m : Metadata} {function : String} {e : Error} (h : m.Lacks function e) :
    ¬ m.OffersNull := by
  rintro ⟨a, hp, hs, -⟩
  exact h.not_taken hp hs

end Metadata

namespace Pass

open Metadata (pointerKey symbolKey)

variable {s t : State}

/-- why lowering fails in a state, and the state it leaves -/
inductive Refusal (s : State) : Error → State → Prop
  | body {e : Error} (hkind : s.strategy.kind s.settings = .bytecode) (h : s.routine.code = .error e) : Refusal s e s
  | noArtifact {e : Error} (hkind : s.strategy.kind s.settings = .artifact)
      (h : s.metadata.Lacks s.routine.shownName e) : Refusal s e s
  | nullAddress {a : Artifact} (hkind : s.strategy.kind s.settings = .artifact)
      (hp : s.metadata.find? pointerKey = some (.pointer a.address))
      (hs : s.metadata.find? symbolKey = some (.str a.symbol)) (hnull : a.address.isNull = true) :
      Refusal s (.codegen (.nullSymbol a.symbol)) { s with metadata := (s.metadata.erase pointerKey).erase symbolKey }

/-- lowering fails for the three reasons only -/
theorem refusal_of_lowering_eq_error {fault : Fault} (h : lowering.run.result s = (.error fault, t)) :
    ∃ e, fault = .error e ∧ Refusal s e t := by
  cases hkind : s.strategy.kind s.settings with
  | bytecode =>
    rw [result_lowering_bytecode hkind] at h
    cases hcode : s.routine.code with
    | ok code =>
      rw [hcode] at h
      cases h
    | error e =>
      rw [hcode] at h
      cases h
      exact ⟨e, rfl, .body hkind hcode⟩
  | artifact =>
    rw [result_lowering_artifact hkind] at h
    cases htake : s.metadata.takeArtifact s.routine.shownName with
    | error e =>
      rw [htake] at h
      cases h
      exact ⟨e, rfl, .noArtifact hkind (Metadata.takeArtifact_eq_error_iff.1 htake)⟩
    | ok p =>
      obtain ⟨a, rest⟩ := p
      obtain ⟨hp, hs, rfl⟩ := Metadata.takeArtifact_eq_ok_iff.1 htake
      rw [htake] at h
      dsimp only at h
      split_ifs at h with hnull
      · cases h
        exact ⟨_, rfl, .nullAddress hkind hp hs hnull⟩
      · cases h

/-- and for each of them it does -/
theorem lowering_eq_error_iff {fault : Fault} :
    lowering.run.result s = (.error fault, t) ↔ ∃ e, fault = .error e ∧ Refusal s e t := by
  refine ⟨refusal_of_lowering_eq_error, ?_⟩
  rintro ⟨e, rfl, hrefusal⟩
  cases hrefusal with
  | body hkind h => rw [result_lowering_bytecode hkind, h]
  | noArtifact hkind h => rw [result_lowering_artifact hkind, Metadata.takeArtifact_eq_error_iff.2 h]
  | nullAddress hkind hp hs hnull =>
    rw [result_lowering_artifact hkind, Metadata.takeArtifact_eq_ok_iff.2 ⟨hp, hs, rfl⟩]
    exact if_pos hnull

/-- **A lowering that fails leaves the state alone**, whatever was in it: routine, settings, strategy, symbols and an
earlier result are as before. So are the metadata, unless artifacts were to be adopted and the metadata had one with a
null address; then its two keys are gone, and no other. -/
theorem failed_lowering_keeps_state {fault : Fault} (h : lowering.run.result s = (.error fault, t)) :
    t.routine = s.routine ∧ t.settings = s.settings ∧ t.strategy = s.strategy ∧ t.symbols = s.symbols ∧
    t.result? = s.result? ∧
    (s.strategy.kind s.settings = .artifact ∧ s.metadata.OffersNull → ∀ key, t.metadata.find? key =
      if key = pointerKey ∨ key = symbolKey then none else s.metadata.find? key) ∧
    (¬ (s.strategy.kind s.settings = .artifact ∧ s.metadata.OffersNull) → t.metadata = s.metadata) := by
  obtain ⟨e, -, hrefusal⟩ := lowering_eq_error_iff.1 h
  cases hrefusal with
  | body hkind _ =>
    refine ⟨rfl, rfl, rfl, rfl, rfl, ?_, fun _ => rfl⟩
    rintro ⟨hartifact, -⟩
    rw [hkind] at hartifact
    cases hartifact
  | noArtifact _ hlacks =>
    exact ⟨rfl, rfl, rfl, rfl, rfl, fun hnull => absurd hnull.2 hlacks.not_offersNull, fun _ => rfl⟩
  | @nullAddress a hkind hp hs hnull =>
    exact ⟨rfl, rfl, rfl, rfl, rfl, fun _ => s.metadata.find?_erase_artifact,
      fun hnot => absurd ⟨hkind, a, hp, hs, hnull⟩ hnot⟩

/-- a request for an empty body, with a null artifact among its metadata -/
def nullRequest (strategy : Strategy) : State where
  routine := { name := "halve", qualifiedName := "", signature := { params := ["whole"] }, body := [] }
  metadata := Metadata.insertArtifact (NameMap.empty.insert "origin" (.str "cache")) ⟨⟨0⟩, "halved"⟩
  settings := {}
  strategy
  symbols := NameMap.empty.insert "halved" ⟨32⟩
  result? := none

/-- adoption takes the null artifact out and no other entry; lowering of the empty body leaves it where it is -/
theorem failed_lowering_keeps_nullRequest :
    (∃ t, lowering.run.result (nullRequest .substitute) = (.error (.error (.codegen (.nullSymbol "halved"))), t) ∧
      t.symbols = (nullRequest .substitute).symbols ∧ t.metadata.find? pointerKey = none ∧
      t.metadata.find? "origin" = some (.str "cache")) ∧
    ∃ t, lowering.run.result (nullRequest .standard) = (.error (.error (.invalidBytecode "halve" 0 .noReturn)), t) ∧
      t.symbols = (nullRequest .standard).symbols ∧ t.metadata = (nullRequest .standard).metadata := by
  have hadopt : lowering.run.result (nullRequest .substitute) =
      (.error (.error (.codegen (.nullSymbol "halved"))), _) := rfl
  have hlower : lowering.run.result (nullRequest .standard) =
      (.error (.error (.invalidBytecode "halve" 0 .noReturn)), _) := rfl
  obtain ⟨-, -, -, hsymbols, -, hgone, -⟩ := failed_lowering_keeps_state hadopt
  obtain ⟨-, -, -, hsymbols', -, -, hkept⟩ := failed_lowering_keeps_state hlower
  have hfind := hgone ⟨rfl, ⟨⟨0⟩, "halved"⟩, rfl, rfl, rfl⟩
  exact ⟨⟨_, hadopt, hsymbols, hfind pointerKey, hfind "origin"⟩, ⟨_, hlower, hsymbols', hkept (by rintro ⟨⟨⟩, -⟩)⟩⟩

end Pass

end Graft
