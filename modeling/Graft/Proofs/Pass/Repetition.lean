/-
An artifact is consumed once, however often lowering is tried.

`Pass.runs` is a pass run several times in a row on one state: what each run comes to, and the state it leaves. A pass
that is refused and leaves the state as it was goes on like that for ever (`runs_of_refused`). Lowering under the
override is refused in this way whenever the metadata lack an artifact (`result_substitutableLowering_of_lacks`), and a
first run that finds one takes it away, whether it can be adopted or not (`lacks_after_take`).

So all runs are known from the first (`artifact_consumed_once`).
-/
import Mathlib.Tactic
import Graft.Proofs.Metadata.Artifact
import Graft.Proofs.Pass.Effect

namespace Graft.Pass

/-- the pass run `n` times in a row, whether the runs end or stop: the outcome of each, and the state it leaves -/
def runs (p : Pass) : (n : Nat) → State → List (Except Fault Bool × State)
  | 0, _ => []
  | n + 1, s => p.run.result s :: p.runs n (p.run.result s).2

/-- what is refused without a trace is refused for ever -/
theorem runs_of_refused {p : Pass} {s : State} {fault : Fault} (h : p.run.result s = (.error fault, s)) (n : Nat) :
    p.runs n s = List.replicate n (.error fault, s) := by
  induction n with
  | zero => rfl
  | succ n ih => rw [runs, h, ih, List.replicate_succ]

/-! ## One run -/

variable {s : State}

/-- a request without an artifact is refused, and nothing has changed -/
theorem result_substitutableLowering_of_lacks {e : Error} (hon : s.settings.adoptArtifacts = true)
    (h : s.metadata.Lacks s.routine.shownName e) :
    substitutableLowering.run.result s = (.error (.error e), s) := by
  rw [result_substitutableLowering_on hon, Metadata.takeArtifact_eq_error_iff.2 h]

/-- a request with an artifact is refused for a null address alone; the artifact is gone in any case, and with it the
pointer key that the next run would look at first -/
theorem lacks_after_take {a : Artifact} {rest : Metadata} (hon : s.settings.adoptArtifacts = true)
    (htake : s.metadata.takeArtifact s.routine.shownName = .ok (a, rest)) :
    ∃ t, substitutableLowering.run.result s =
        (if a.address.isNull then .error (.error (.codegen (.nullSymbol a.symbol))) else .ok true, t) ∧
      t.settings.adoptArtifacts = true ∧
      t.metadata.Lacks t.routine.shownName (.missingArtifact s.routine.shownName Metadata.pointerKey) := by
  have hgone : rest.Lacks s.routine.shownName (.missingArtifact s.routine.shownName Metadata.pointerKey) :=
    .pointer (Metadata.find?_of_takeArtifact htake).1
  rw [result_substitutableLowering_on hon, htake]
  dsimp only
  split_ifs
  · exact ⟨_, rfl, hon, hgone⟩
  · exact ⟨_, rfl, hon, hgone⟩

/-! ## Many runs -/

/-- the error of a request whose artifact has a null address -/
def IsNullAddress (fault : Fault) : Prop := ∃ symbol, fault = .error (.codegen (.nullSymbol symbol))

theorem not_isNullAddress_of_lacks {m : Metadata} {function : String} {e : Error} (h : m.Lacks function e) :
    ¬ IsNullAddress (.error e) := by
  rintro ⟨symbol, he⟩
  cases h <;> cases he

/-- **All runs from the first.** A request that lacks an artifact is refused in every run, and no run changes anything.
One that has an artifact may succeed in the first run; every later run misses the pointer key, and changes nothing. -/
theorem runs_substitutableLowering (hon : s.settings.adoptArtifacts = true) :
    (∃ e, s.metadata.Lacks s.routine.shownName e ∧ substitutableLowering.run.result s = (.error (.error e), s) ∧
      ∀ n, substitutableLowering.runs n s = List.replicate n (.error (.error e), s)) ∨
    ∃ first t, substitutableLowering.run.result s = (first, t) ∧
      (first = .ok true ∨ ∃ fault, first = .error fault ∧ IsNullAddress fault) ∧
      ∀ n, substitutableLowering.runs (n + 1) s = (first, t) ::
        List.replicate n (.error (.error (.missingArtifact s.routine.shownName Metadata.pointerKey)), t) := by
  cases htake : s.metadata.takeArtifact s.routine.shownName with
  | error e =>
    have hlacks := Metadata.takeArtifact_eq_error_iff.1 htake
    have hrefused := result_substitutableLowering_of_lacks hon hlacks
    exact Or.inl ⟨e, hlacks, hrefused, runs_of_refused hrefused⟩
  | ok p =>
    obtain ⟨a, rest⟩ := p
    obtain ⟨t, hfirst, hon', hlacks⟩ := lacks_after_take hon htake
    have hlater := runs_of_refused (result_substitutableLowering_of_lacks hon' hlacks)
    refine Or.inr ⟨_, t, hfirst, ?_, fun n => by rw [runs, hfirst, hlater]⟩
    split_ifs
    · exact Or.inr ⟨_, rfl, a.symbol, rfl⟩
    · exact Or.inl rfl

/-- **An artifact is consumed once.** Where artifacts are adopted, let lowering under the override run any number of
times in a row. Only the first run can succeed. When it does, or is refused because the address of the artifact is null,
every later run misses the pointer key and leaves the state as the first run left it. When the first run fails in any
other way, a part of the artifact is missing or of the wrong kind; then every run fails with the same error, and the
state never changes. -/
theorem artifact_consumed_once (hon : s.settings.adoptArtifacts = true) (n : Nat) :
    (∀ k changed t, (substitutableLowering.runs n s)[k]? = some (.ok changed, t) → k = 0) ∧
    (∀ first t, substitutableLowering.run.result s = (first, t) →
      ((∃ changed, first = .ok changed) ∨ ∃ fault, first = .error fault ∧ IsNullAddress fault) →
      substitutableLowering.runs (n + 1) s = (first, t) ::
        List.replicate n (.error (.error (.missingArtifact s.routine.shownName Metadata.pointerKey)), t)) ∧
    ∀ fault t, substitutableLowering.run.result s = (.error fault, t) → ¬ IsNullAddress fault →
      (∃ e, fault = .error e ∧ s.metadata.Lacks s.routine.shownName e) ∧ t = s ∧
        substitutableLowering.runs n s = List.replicate n (.error fault, s) := by
  rcases runs_substitutableLowering hon with ⟨e, hlacks, hrun, hruns⟩ | ⟨first, t, hrun, hfirst, hruns⟩
  · refine ⟨?_, ?_, ?_⟩
    · intro k changed t hk
      have hmem := List.mem_of_getElem? hk
      rw [hruns] at hmem
      cases List.eq_of_mem_replicate hmem
    · intro first t hrun' hcase
      rw [hrun] at hrun'
      cases hrun'
      rcases hcase with ⟨changed, hok⟩ | ⟨fault, hfault, hnull⟩
      · cases hok
      · cases hfault
        exact (not_isNullAddress_of_lacks hlacks hnull).elim
    · intro fault t hrun' _
      rw [hrun] at hrun'
      cases hrun'
      exact ⟨⟨e, rfl, hlacks⟩, rfl, hruns n⟩
  · refine ⟨?_, ?_, ?_⟩
    · intro k changed t' hk
      cases n with
      | zero => cases hk
      | succ n =>
        rw [hruns] at hk
        cases k with
        | zero => rfl
        | succ k => cases List.eq_of_mem_replicate (List.mem_of_getElem? hk)
    · intro first' t' hrun' _
      rw [hrun] at hrun'
      cases hrun'
      exact hruns n
    · intro fault t' hrun' hnot
      rw [hrun] at hrun'
      cases hrun'
      rcases hfirst with hok | ⟨fault', hfault, hnull⟩
      · cases hok
      · cases hfault
        exact (hnot hnull).elim

/-- a request with an artifact under the symbol `tripled`, at the given address -/
def offering (address : UInt64) : State :=
  State.new { name := "triple", qualifiedName := "", signature := { params := ["single"] }, body := [] } {}
    NameMap.empty (Metadata.insertArtifact NameMap.empty ⟨⟨address⟩, "tripled"⟩)

/-- the artifact is adopted by the first of three runs, and missed by the others; one with a null address is never
adopted, and missed just as well after the first run -/
theorem artifact_consumed_once_offering :
    (∃ t, (offering 16).settings.adoptArtifacts = true ∧ t.symbols.find? "tripled" = some ⟨16⟩ ∧
      substitutableLowering.runs 3 (offering 16) = [(.ok true, t),
        (.error (.error (.missingArtifact "triple" Metadata.pointerKey)), t),
        (.error (.error (.missingArtifact "triple" Metadata.pointerKey)), t)]) ∧
    ∃ t, (offering 0).settings.adoptArtifacts = true ∧ t.symbols = NameMap.empty ∧
      substitutableLowering.runs 3 (offering 0) = [(.error (.error (.codegen (.nullSymbol "tripled"))), t),
        (.error (.error (.missingArtifact "triple" Metadata.pointerKey)), t),
        (.error (.error (.missingArtifact "triple" Metadata.pointerKey)), t)] := by
  have hadopted := (artifact_consumed_once (s := offering 16) rfl 2).2.1 (.ok true) _ rfl (Or.inl ⟨true, rfl⟩)
  have hrefused := (artifact_consumed_once (s := offering 0) rfl 2).2.1 (.error _) _ rfl
    (Or.inr ⟨_, rfl, "tripled", rfl⟩)
  exact ⟨⟨_, rfl, rfl, hadopted⟩, ⟨_, rfl, rfl, hrefused⟩⟩

end Graft.Pass
