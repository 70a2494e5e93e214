/-
What a lowerer does on its workbench, outcome and state at once.

Every lowering begins with the same module, `Routine.shell`. Lowering of the stack code then succeeds exactly when the
body has three-address code, and touches neither metadata nor symbols. Adoption of an artifact succeeds exactly when the
metadata has one with an address that is not null; it takes the artifact out of the metadata and binds its symbol.

`result_lower_bytecode_ok`, `result_lower_bytecode_error` and `result_lower_artifact` give the whole of
`Workbench.lower`.
-/
import Mathlib.Tactic
import Graft.Lowerer
import Graft.Proofs.Library.Effect
import Graft.Proofs.Metadata.Artifact
import Graft.Proofs.Routine.Emission

namespace Graft

namespace Routine

/-- the module every lowering begins with: the environment object, and the body's symbol declared -/
def shell (f : Routine) (library : String) : Module :=
  ((Module.new (library ++ "::" ++ f.shownName)).addEnvironment f.environment).declare f.symbol

/-- the body under the routine's symbol -/
def bodyOf (f : Routine) (code : List Instr) : Body := ⟨f.symbol, f.arity, code⟩

end Routine

namespace Workbench

variable {f : Routine} {b : Workbench} {m : Module}

@[simp] theorem result_onLibrary {α : Type} (x : Action Error Library α) (b : Workbench) :
    (onLibrary x).result b = ((x.result b.library).1, { b with library := (x.result b.library).2 }) := by
  simp [onLibrary]

@[simp] theorem result_onSymbols {α : Type} (x : Action Error SymbolTable α) (b : Workbench) :
    (onSymbols x).result b = ((x.result b.symbols).1, { b with symbols := (x.result b.symbols).2 }) := by
  simp [onSymbols]

@[simp] theorem result_onMetadata {α : Type} (x : Action Error Metadata α) (b : Workbench) :
    (onMetadata x).result b = ((x.result b.metadata).1, { b with metadata := (x.result b.metadata).2 }) := by
  simp [onMetadata]

@[simp] theorem result_setModule (m : Option Module) (b : Workbench) :
    (setModule m).result b = (.ok (), { b with lowerer := { b.lowerer with module? := m } }) := by
  simp [setModule]

@[simp] theorem result_advance (f : Routine) (stage : Stage) (b : Workbench) :
    (advance f stage).result b = (.ok (), { b with lowerer := { b.lowerer with stage } }) := by
  simp [advance]

/-- the bench once the environment object is emitted -/
theorem result_emitEnvironment (f : Routine) (b : Workbench) :
    (emitEnvironment f).result b =
      (.ok (), { b with lowerer := { b.lowerer with
        module? := some ((b.library.newModule f.shownName).addEnvironment f.environment)
        environment? := some f.environment
        stage := .environmentReady } }) := by
  simp [emitEnvironment]

theorem result_declare (h : b.lowerer.module? = some m) :
    (declare f).result b =
      (.ok (), { b with lowerer := { b.lowerer with module? := some (m.declare f.symbol) } }) := by
  simp [declare, currentModule, h]

/-- an open library takes the module over -/
theorem result_handOver (h : b.lowerer.module? = some m) (hopen : b.library.finalized = false) :
    (handOver f).result b =
      (.ok (), { b with
        lowerer := { b.lowerer with module? := none, stage := .finalized }
        library := { b.library with modules := b.library.modules ++ [m] } }) := by
  simp [handOver, h, Library.result_addModule hopen]

/-! ## The body -/

theorem result_lowerBytecode_ok (h : b.lowerer.module? = some m) {code : List Instr} (hcode : f.code = .ok code) :
    (lowerBytecode f).result b =
      (.ok (), { b with lowerer := { b.lowerer with
        module? := some ((m.declare f.symbol).define (f.bodyOf code)), stage := .instructionsLowered } }) := by
  simp [lowerBytecode, result_declare h, hcode, define, currentModule, Routine.bodyOf]

theorem result_lowerBytecode_error (h : b.lowerer.module? = some m) {e : Error} (hcode : f.code = .error e) :
    (lowerBytecode f).result b =
      (.error e, { b with lowerer := { b.lowerer with module? := some (m.declare f.symbol) } }) := by
  simp [lowerBytecode, result_declare h, hcode]

theorem result_bindArtifact (h : b.lowerer.module? = some m) :
    (bindArtifact f).result b =
      match b.metadata.takeArtifact f.shownName with
      | .error e =>
        (.error e, { b with
          lowerer := { b.lowerer with module? := some (m.declare f.symbol) }
          library := { b.library with verifies := false } })
      | .ok (a, rest) =>
        if a.address.isNull then
          (.error (.codegen (.nullSymbol a.symbol)), { b with
            lowerer := { b.lowerer with module? := some (m.declare f.symbol) }
            metadata := rest
            library := { b.library with verifies := false } })
        else
          (.ok (), {
            lowerer := { b.lowerer with
              module? := some (m.declare f.symbol), stage := .artifactBound, bound? := some a.symbol }
            metadata := rest
            library := { b.library with verifies := false }
            symbols := b.symbols.insert a.symbol a.address }) := by
  simp only [bindArtifact, Action.result_bind, result_declare h, result_onLibrary, Library.result_skipVerification,
    result_onMetadata, Metadata.result_removeArtifact]
  cases b.metadata.takeArtifact f.shownName with
  | error e => rfl
  | ok p =>
    obtain ⟨a, rest⟩ := p
    -- whether the symbol is the routine's own makes a difference to the log alone
    cases hnull : a.address.isNull with
    | true => by_cases hs : a.symbol = f.symbol <;> simp [hs, hnull, SymbolTable.result_register_of_isNull hnull]
    | false => by_cases hs : a.symbol = f.symbol <;> simp [hs, hnull, SymbolTable.result_register hnull]

/-! ## The whole function -/

/-- the lowerer once the module is begun and the body's symbol declared -/
def begun (b : Workbench) (f : Routine) : Lowerer :=
  { b.lowerer with
    module? := some (f.shell b.library.name), environment? := some f.environment, stage := .environmentReady }

/-- the lowerer once the module is handed over -/
def ended (b : Workbench) (f : Routine) : Lowerer :=
  { b.lowerer with module? := none, environment? := some f.environment, stage := .finalized }

/-- stack code that can be lowered reaches the library as the one function of a new module -/
theorem result_lower_bytecode_ok (hk : b.lowerer.kind = .bytecode) (hopen : b.library.finalized = false)
    {code : List Instr} (hcode : f.code = .ok code) :
    (lower f).result b =
      (.ok (), { b with
        lowerer := b.ended f
        library := { b.library with
          modules := b.library.modules ++ [(f.shell b.library.name).define (f.bodyOf code)] } }) := by
  rcases b with ⟨⟨kind, _, _, _, _⟩, _, _, _⟩
  obtain rfl : kind = .bytecode := hk
  simp only [lower, lowerBody, Action.result_bind, result_emitEnvironment, Action.result_read]
  rw [result_lowerBytecode_ok rfl hcode]
  dsimp only
  rw [result_handOver rfl ?_]
  · rfl
  · exact hopen

theorem result_lower_bytecode_error (hk : b.lowerer.kind = .bytecode) {e : Error} (hcode : f.code = .error e) :
    (lower f).result b = (.error e, { b with lowerer := b.begun f }) := by
  rcases b with ⟨⟨kind, _, _, _, _⟩, _, _, _⟩
  obtain rfl : kind = .bytecode := hk
  simp only [lower, lowerBody, Action.result_bind, result_emitEnvironment, Action.result_read]
  rw [result_lowerBytecode_error rfl hcode]
  rfl

/-- an artifact is taken out of the metadata and bound; the new module only declares the body -/
theorem result_lower_artifact (hk : b.lowerer.kind = .artifact) (hopen : b.library.finalized = false) :
    (lower f).result b =
      match b.metadata.takeArtifact f.shownName with
      | .error e => (.error e, { b with lowerer := b.begun f, library := { b.library with verifies := false } })
      | .ok (a, rest) =>
        if a.address.isNull then
          (.error (.codegen (.nullSymbol a.symbol)), { b with
            lowerer := b.begun f, metadata := rest, library := { b.library with verifies := false } })
        else
          (.ok (), {
            lowerer := { b.ended f with bound? := some a.symbol }
            metadata := rest
            library := { b.library with
              modules := b.library.modules ++ [f.shell b.library.name], verifies := false }
            symbols := b.symbols.insert a.symbol a.address }) := by
  rcases b with ⟨⟨kind, _, _, _, _⟩, metadata, _, _⟩
  obtain rfl : kind = .artifact := hk
  simp only [lower, lowerBody, Action.result_bind, result_emitEnvironment, Action.result_read]
  rw [result_bindArtifact rfl]
  dsimp only
  cases metadata.takeArtifact f.shownName with
  | error e => rfl
  | ok p =>
    obtain ⟨a, rest⟩ := p
    dsimp only
    split_ifs
    · rfl
    · dsimp only
      rw [result_handOver rfl ?_]
      · rfl
      · exact hopen

end Workbench

end Graft
