/-
Both kinds of lowerers leave the same scaffolding.

A lowerer of stack code and a lowerer of artifacts are set to work on the same function, metadata, library and symbols,
each newly made, and both end. Their modules are then equal but for the body, which the one defines and the other does
not (`define_shell`); all else that can be seen of the two runs is in `SameScaffolding`, `HostsOnly` and `AdoptsOnly`.

`lowerings_share_scaffolding` has the three together. It rests on what each run comes to when it ends,
`lower_bytecode_ok` and `lower_artifact_ok`.
-/
import Mathlib.Tactic
import Graft.Proofs.Lowerer.Effect
import Graft.Proofs.Metadata.Artifact

namespace Graft

/-- the module of a lowered body is the shell with the body in it: the body's symbol was declared before -/
theorem Routine.define_shell (f : Routine) (library : String) (code : List Instr) :
    (f.shell library).define (f.bodyOf code) = { f.shell library with functions := [f.bodyOf code] } := by
  have hdeclared : (f.shell library).declared.find? f.symbol = some () := NameMap.find?_insert_self _ f.symbol ()
  have hagain : (f.shell library).declared.add f.symbol = (f.shell library).declared :=
    NameMap.insert_of_find? hdeclared
  simp only [Module.define, Module.declare, bodyOf, hagain]
  rfl

/-- a module without functions adds no instructions -/
theorem Library.instructionCount_append {l after : Library} {m : Module} (hm : m.functions = [])
    (h : after.modules = l.modules ++ [m]) : after.instructionCount = l.instructionCount := by
  simp [instructionCount, h, hm]

namespace Workbench

open Metadata (pointerKey symbolKey)

variable {f : Routine} {m : Metadata} {l : Library} {t : SymbolTable} {hosted grafted : Workbench}

/-- a new lowerer set to work on metadata, library and symbols -/
def fresh (kind : Lowerer.Kind) (m : Metadata) (l : Library) (t : SymbolTable) : Workbench := ⟨{ kind }, m, l, t⟩

/-! ## Runs that end -/

/-- a lowering of stack code that ends has added the body in a module of its own, and changed nothing else
on the bench -/
theorem lower_bytecode_ok (hopen : l.finalized = false)
    (h : (lower f).result (fresh .bytecode m l t) = (.ok (), hosted)) :
    ∃ code, f.code = .ok code ∧ hosted =
      { lowerer := (fresh .bytecode m l t).ended f
        metadata := m
        library := { l with modules := l.modules ++ [{ f.shell l.name with functions := [f.bodyOf code] }] }
        symbols := t } := by
  cases hcode : f.code with
  | error e =>
    rw [result_lower_bytecode_error rfl hcode] at h
    cases h
  | ok code =>
    rw [result_lower_bytecode_ok rfl hopen hcode] at h
    cases h
    exact ⟨code, rfl, by rw [← f.define_shell]; rfl⟩

/-- an adoption that ends has taken the artifact out of the metadata, bound its symbol, and added a module that
declares the body -/
theorem lower_artifact_ok (hopen : l.finalized = false)
    (h : (lower f).result (fresh .artifact m l t) = (.ok (), grafted)) :
    ∃ a : Artifact, m.find? pointerKey = some (.pointer a.address) ∧ m.find? symbolKey = some (.str a.symbol) ∧
      grafted =
      { lowerer := { (fresh .artifact m l t).ended f with bound? := some a.symbol }
        metadata := (m.erase pointerKey).erase symbolKey
        library := { l with modules := l.modules ++ [f.shell l.name], verifies := false }
        symbols := t.insert a.symbol a.address } := by
  have hmetadata : (fresh .artifact m l t).metadata = m := rfl
  rw [result_lower_artifact rfl hopen, hmetadata] at h
  cases htake : m.takeArtifact f.shownName with
  | error e =>
    rw [htake] at h
    cases h
  | ok p =>
    obtain ⟨a, rest⟩ := p
    obtain ⟨hp, hs, rfl⟩ := Metadata.takeArtifact_eq_ok_iff.1 htake
    rw [htake] at h
    dsimp only at h
    split_ifs at h
    · cases h
    · cases h
      exact ⟨a, hp, hs, rfl⟩

/-! ## The two runs -/

/-- each bench has one module of `f` more than the library `l`; the modules are the same but for the body, and so are
the environment objects that the lowerers report -/
structure SameScaffolding (f : Routine) (l : Library) (hosted grafted : Workbench) (shell : Module) (body : Body) :
    Prop where
  hosted_modules : hosted.library.modules = l.modules ++ [{ shell with functions := [body] }]
  grafted_modules : grafted.library.modules = l.modules ++ [shell]
  /-- the body's symbol is declared, and no other -/
  declared : shell.declared.names = [f.symbol]
  environment : ∃ e, shell.environments = [e] ∧ hosted.lowerer.environment? = some e ∧
    grafted.lowerer.environment? = some e
  body_symbol : body.symbol = f.symbol
  body_arity : body.arity = f.arity
  grafted_functions : shell.functions = []

/-- beyond the new module a lowering of stack code changes nothing -/
structure HostsOnly (m : Metadata) (l : Library) (t : SymbolTable) (hosted : Workbench) : Prop where
  metadata : hosted.metadata = m
  library : hosted.library = { l with modules := hosted.library.modules }
  symbols : hosted.symbols = t

/-- beyond the new module an adoption takes the artifact out of the metadata, binds its symbol to its address, and
switches verification off -/
structure AdoptsOnly (m : Metadata) (l : Library) (t : SymbolTable) (grafted : Workbench) (a : Artifact) : Prop where
  address : m.find? pointerKey = some (.pointer a.address)
  symbol : m.find? symbolKey = some (.str a.symbol)
  metadata : ∀ key, grafted.metadata.find? key = if key = pointerKey ∨ key = symbolKey then none else m.find? key
  library : grafted.library = { l with modules := grafted.library.modules, verifies := false }
  instructionCount : grafted.library.instructionCount = l.instructionCount
  symbols : ∀ name, grafted.symbols.find? name = if name = a.symbol then some a.address else t.find? name

/-- **Both kinds of lowerers leave the same scaffolding.** Wherever both end on an open library, their modules differ in
the body alone. The one run changes nothing but the library's modules; the other takes the artifact's two keys out of
the metadata, binds the artifact's symbol, switches verification off, and adds no instruction to the library. -/
theorem lowerings_share_scaffolding (hopen : l.finalized = false)
    (hhost : (lower f).result (fresh .bytecode m l t) = (.ok (), hosted))
    (hgraft : (lower f).result (fresh .artifact m l t) = (.ok (), grafted)) :
    ∃ shell body a, SameScaffolding f l hosted grafted shell body ∧ HostsOnly m l t hosted ∧
      AdoptsOnly m l t grafted a := by
  obtain ⟨code, -, rfl⟩ := lower_bytecode_ok hopen hhost
  obtain ⟨a, hp, hs, rfl⟩ := lower_artifact_ok hopen hgraft
  refine ⟨f.shell l.name, f.bodyOf code, a, ?_, ⟨rfl, rfl, rfl⟩, ?_⟩
  · exact ⟨rfl, rfl, rfl, ⟨f.environment, rfl, rfl, rfl⟩, rfl, rfl, rfl⟩
  · exact ⟨hp, hs, m.find?_erase_artifact, rfl, Library.instructionCount_append rfl rfl,
      t.find?_insert a.symbol a.address⟩

/-- a function of which the request has an artifact too -/
def decrement : Routine where
  name := "decrement"
  qualifiedName := "steps.decrement"
  signature := { params := ["minuend"] }
  body := [.arg 0, .load 1, .binary .sub, .ret]

def decrementRequest : Metadata := Metadata.insertArtifact NameMap.empty ⟨⟨48⟩, "decremented"⟩

/-- a library that has another module already -/
def stepsLibrary : Library := { Library.new "steps" with modules := [Module.new "steps::first"] }

/-- both runs end, and leave the same but for the body -/
theorem lowerings_share_scaffolding_decrement :
    ∃ hosted grafted shell body a,
      (lower decrement).result (fresh .bytecode decrementRequest stepsLibrary NameMap.empty) = (.ok (), hosted) ∧
      (lower decrement).result (fresh .artifact decrementRequest stepsLibrary NameMap.empty) = (.ok (), grafted) ∧
      SameScaffolding decrement stepsLibrary hosted grafted shell body ∧
      HostsOnly decrementRequest stepsLibrary NameMap.empty hosted ∧
      AdoptsOnly decrementRequest stepsLibrary NameMap.empty grafted a := by
  have hhost : (lower decrement).result (fresh .bytecode decrementRequest stepsLibrary NameMap.empty) =
      (.ok (), _) := rfl
  have hgraft : (lower decrement).result (fresh .artifact decrementRequest stepsLibrary NameMap.empty) =
      (.ok (), _) := rfl
  obtain ⟨shell, body, a, hsame⟩ := lowerings_share_scaffolding rfl hhost hgraft
  exact ⟨_, _, shell, body, a, hhost, hgraft, hsame⟩

end Workbench

end Graft
