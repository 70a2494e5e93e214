/-
With adoption switched off the native pipeline cannot be told from the standard one.

`Strategy.kind_of_off`: then every strategy stands for the lowerer of stack code. So the lowering pass does not look at
the strategy in force (`result_lowering_off`), an override around it is invisible (`result_substitutableLowering_off`),
and the two pipelines end alike and in the same state, from any state (`nativePipeline_transparent`).
-/
import Mathlib.Tactic
import Graft.Builtin
import Graft.Proofs.Pass.Effect

namespace Graft

/-- with adoption off every strategy stands for the lowerer of stack code -/
theorem Strategy.kind_of_off {settings : Settings} (hoff : settings.adoptArtifacts = false) (strategy : Strategy) :
    strategy.kind settings = .bytecode := by
  cases strategy with
  | standard => rfl
  | substitute => simp [kind, hoff]

namespace Pass

variable {s : State}

/-- with adoption off the lowering pass does the same under any strategy, and leaves the strategy in force -/
theorem result_lowering_off (hoff : s.settings.adoptArtifacts = false) (strategy : Strategy) :
    lowering.run.result { s with strategy } =
      ((lowering.run.result s).1, { (lowering.run.result s).2 with strategy }) := by
  have hother := result_lowering_bytecode (s := { s with strategy }) (Strategy.kind_of_off hoff strategy)
  rw [hother, result_lowering_bytecode (Strategy.kind_of_off hoff s.strategy)]
  cases s.routine.code <;> rfl

/-- with adoption off the lowering pass changes nothing but the result -/
theorem exists_result_lowering_off (hoff : s.settings.adoptArtifacts = false) :
    ∃ result?, (lowering.run.result s).2 = { s with result? } := by
  rw [result_lowering_bytecode (Strategy.kind_of_off hoff _)]
  cases s.routine.code with
  | ok code => exact ⟨_, rfl⟩
  | error e => exact ⟨s.result?, rfl⟩

theorem result_substitutableLowering_off (hoff : s.settings.adoptArtifacts = false) :
    substitutableLowering.run.result s = lowering.run.result s := by
  obtain ⟨result?, hresult⟩ := exists_result_lowering_off hoff
  have hover := State.result_withStrategy .substitute lowering.run s
  rw [result_lowering_off hoff] at hover
  calc substitutableLowering.run.result s
      = ((lowering.run.result s).1, { (lowering.run.result s).2 with strategy := s.strategy }) := hover
    _ = ((lowering.run.result s).1, (lowering.run.result s).2) := by rw [hresult]
    _ = lowering.run.result s := rfl

end Pass

namespace Compiler

open Pipeline

theorem passes_nativePipeline_off {c : Compiler} (hoff : c.settings.adoptArtifacts = false) :
    c.nativePipeline.passes = [Pass.verification, Pass.substitutableLowering] := by
  simp [nativePipeline, acquisitions, hoff]

/-- with adoption off the two pipelines do the same -/
theorem result_nativePipeline_off {c : Compiler} {s : State} (hs : s.settings = c.settings)
    (hoff : c.settings.adoptArtifacts = false) :
    c.nativePipeline.run.result s = standardPipeline.run.result s := by
  rw [result_run, result_run, passes_nativePipeline_off hoff, standardPipeline]
  rw [← hs] at hoff
  cases hver : s.routine.verify.value with
  | error e => rw [result_performAll_rejected hver, result_performAll_rejected hver]
  | ok _ =>
    rw [result_performAll_verified hver, result_performAll_verified hver, result_performAll_last rfl,
      result_performAll_last rfl, Pass.result_substitutableLowering_off hoff]

/-- where stack code is lowered, the standard pipeline lowers a right body and leaves nothing but the result -/
theorem result_standardPipeline_bytecode {s : State} {code : List Instr} (hk : s.strategy.kind s.settings = .bytecode)
    (hver : s.routine.verify.value = .ok ()) (hcode : s.routine.code = .ok code) :
    standardPipeline.run.result s =
      (.ok (), { s with result? := some (s.routine.hosted s.settings.lowerOnly code) }) := by
  rw [result_run, standardPipeline, result_performAll_verified hver, result_performAll_last rfl,
    Pass.result_lowering_bytecode hk, hcode]
  rfl

/-- with adoption off the standard pipeline changes nothing but the result -/
theorem exists_result_standardPipeline_off {s : State} (hoff : s.settings.adoptArtifacts = false) :
    ∃ result?, (standardPipeline.run.result s).2 = { s with result? } := by
  rw [result_run, standardPipeline]
  cases hver : s.routine.verify.value with
  | error e =>
    rw [result_performAll_rejected hver]
    exact ⟨s.result?, rfl⟩
  | ok _ =>
    rw [result_performAll_verified hver, result_performAll_last rfl]
    exact Pass.exists_result_lowering_off hoff

/-- **Transparency of the switch.** With adoption off, whatever the provider and from any state with these settings, the
native and the standard pipeline have the same outcome and reach the same state. In both, metadata, strategy and symbols
are as before. -/
theorem nativePipeline_transparent (c : Compiler) (s : State) (hs : s.settings = c.settings)
    (hoff : c.settings.adoptArtifacts = false) :
    c.nativePipeline.run.result s = standardPipeline.run.result s ∧
      ∀ p ∈ [c.nativePipeline, standardPipeline],
        (p.run.result s).2.metadata = s.metadata ∧ (p.run.result s).2.strategy = s.strategy ∧
          (p.run.result s).2.symbols = s.symbols := by
  have hsame : c.nativePipeline.run.result s = standardPipeline.run.result s := result_nativePipeline_off hs hoff
  have hoff' : s.settings.adoptArtifacts = false := by rw [hs, hoff]
  obtain ⟨result?, hframe⟩ := exists_result_standardPipeline_off hoff'
  refine ⟨hsame, ?_⟩
  intro p hp
  have hend : (p.run.result s).2 = { s with result? } := by
    rcases List.mem_pair.1 hp with rfl | rfl
    · rw [hsame, hframe]
    · exact hframe
  rw [hend]
  exact ⟨rfl, rfl, rfl⟩

/-- a compiler with adoption off that has a provider all the same -/
def hostCompiler : Compiler :=
  { settings := { adoptArtifacts := false }, provider? := some Builtin.precompiled.provider }

/-- a state under an override, with an artifact for the routine in the metadata -/
def carryingState : State where
  routine :=
    { name := "add", qualifiedName := "", signature := { params := ["left", "right"] }, body := [.arg 1, .neg, .ret] }
  metadata := Metadata.insertArtifact NameMap.empty ⟨⟨16⟩, "add_native"⟩
  settings := hostCompiler.settings
  strategy := .substitute
  symbols := NameMap.empty
  result? := none

/-- the stack code is lowered; the artifact stays where it is, and so does the override -/
theorem nativePipeline_transparent_carryingState :
    hostCompiler.settings.adoptArtifacts = false ∧
    (hostCompiler.nativePipeline.run.result carryingState).1 = .ok () ∧
    hostCompiler.nativePipeline.run.result carryingState = standardPipeline.run.result carryingState ∧
    (hostCompiler.nativePipeline.run.result carryingState).2.metadata = carryingState.metadata ∧
    (hostCompiler.nativePipeline.run.result carryingState).2.strategy = .substitute := by
  obtain ⟨hsame, hframe⟩ := nativePipeline_transparent hostCompiler carryingState rfl rfl
  obtain ⟨hmetadata, hstrategy, -⟩ := hframe hostCompiler.nativePipeline List.mem_cons_self
  have hlowered := result_standardPipeline_bytecode (s := carryingState) rfl rfl rfl
  exact ⟨rfl, by rw [hsame, hlowered], hsame, hmetadata, hstrategy⟩

end Compiler

end Graft
