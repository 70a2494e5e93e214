/-
What the passes do to the state of a compilation, outcome and state at once.

`Routine.hosted` and `Routine.grafted` are the two results a lowering can leave: the body lowered into the library, or
the body only declared there and bound to an artifact. `result_lowering_bytecode` and `result_lowering_artifact` say
that the lowering pass leaves exactly these, and that once the body is there resolution cannot fail: a lowered body is
found in the library, whatever the table binds its symbol to, and an adopted one under the symbol that was just
registered.

`result_withStrategy`: an override gives the inner action another strategy, and changes nothing else.
-/
import Mathlib.Tactic
import Graft.Pass.Standard
import Graft.Proofs.Lowerer.Effect

namespace Graft

namespace Routine

/-- what lowering of the stack code leaves behind -/
def hosted (f : Routine) (lowerOnly : Bool) (code : List Instr) : Lowered where
  environment := f.environment
  library := ⟨f.shownName, [(f.shell f.shownName).define (f.bodyOf code)], !lowerOnly, true⟩
  entry := if lowerOnly then none else some (.lowered (f.bodyOf code))

/-- what adoption of an artifact leaves behind -/
def grafted (f : Routine) (lowerOnly : Bool) (a : Artifact) : Lowered where
  environment := f.environment
  library := ⟨f.shownName, [f.shell f.shownName], !lowerOnly, false⟩
  entry := if lowerOnly then none else some (.native a.symbol a.address f.arity)

/-- the module of a lowered body declares nothing but the body's symbol -/
theorem mem_declared_define_shell {f : Routine} {library s : String} {code : List Instr}
    (h : s ∈ ((f.shell library).define (f.bodyOf code)).declared.names) : s = f.symbol := by
  rw [NameMap.mem_names_iff] at h
  by_contra hne
  simp [Module.define, Module.declare, shell, Module.addEnvironment, Module.new, bodyOf, NameSet.add,
    NameMap.find?_insert, NameMap.find?_empty, hne] at h

end Routine

namespace Library

theorem function?_define_shell (f : Routine) (code : List Instr) (finalized verifies : Bool) :
    (Library.mk f.shownName [(f.shell f.shownName).define (f.bodyOf code)] finalized verifies).function? f.symbol =
      some (f.bodyOf code) := by
  simp [function?, Module.function?, Module.define, Routine.shell, Module.declare, Module.addEnvironment, Module.new,
    Routine.bodyOf]

theorem function?_shell (f : Routine) (finalized verifies : Bool) (symbol : String) :
    (Library.mk f.shownName [f.shell f.shownName] finalized verifies).function? symbol = none := rfl

/-- a library with a lowered body can be closed: the one symbol it declares is defined -/
theorem result_finalize_define_shell (f : Routine) (code : List Instr) :
    finalize.result ⟨f.shownName, [(f.shell f.shownName).define (f.bodyOf code)], false, true⟩ =
      (.ok (), ⟨f.shownName, [(f.shell f.shownName).define (f.bodyOf code)], true, true⟩) := by
  rw [result_finalize, undefinedSymbols_eq_empty]
  · rfl
  · intro m hm s hs
    obtain rfl := List.mem_singleton.1 hm
    obtain rfl := Routine.mem_declared_define_shell hs
    rw [function?_define_shell]
    rfl

theorem result_finalize_of_not_verifies {l : Library} (h : l.verifies = false) :
    finalize.result l = (.ok (), { l with finalized := true }) := by
  simp [result_finalize, h]

end Library

namespace Pass

variable {s : State}

/-- the workbench on which the lowering pass sets a lowerer to work -/
def bench (s : State) : Workbench :=
  ⟨s.strategy.lowerer s.settings, s.metadata, Library.new s.routine.shownName, s.symbols⟩

theorem result_lowerWith (s : State) :
    (lowerWith (s.strategy.lowerer s.settings)).result s =
      (((Workbench.lower s.routine).result (bench s)).1.map fun _ => ((Workbench.lower s.routine).result (bench s)).2,
        { s with
          metadata := ((Workbench.lower s.routine).result (bench s)).2.metadata
          symbols := ((Workbench.lower s.routine).result (bench s)).2.symbols }) := by
  simp only [lowerWith, Action.result_bind, Action.result_read, Action.result_embed]
  simp only [bench]
  cases ((Workbench.lower s.routine).result _).1 <;> rfl

/-- resolution in a library that can be closed closes it, and gives what the entry symbol resolves to -/
theorem result_resolve {b : Workbench} {symbol : String} {e : Entry}
    (hfin : Library.finalize.result b.library = (.ok (), { b.library with finalized := true }))
    (hs : b.lowerer.entrySymbol s.routine = symbol)
    (he : b.library.resolution symbol s.routine.arity s.symbols = .ok e) :
    (resolve b).result s =
      if s.settings.lowerOnly then (.ok (none, b.library), s)
      else (.ok (some e, { b.library with finalized := true }), s) := by
  simp only [resolve, Action.result_bind, Action.result_read]
  cases s.settings.lowerOnly with
  | true => simp
  | false => simp [hs, Library.result_executable hfin, he, Except.map]

/-- a lowerer that stops stops the pass; metadata and symbols keep what it did to them -/
theorem result_lowering_of_lower_error {e : Error} {b : Workbench}
    (hlower : (Workbench.lower s.routine).result (bench s) = (.error e, b)) :
    lowering.run.result s = (.error (.error e), { s with metadata := b.metadata, symbols := b.symbols }) := by
  simp [lowering, result_lowerWith, hlower, Except.map, Except.mapError]

/-- a lowerer that ends with an environment object and an entry symbol that resolves lets the pass end -/
theorem result_lowering_of_lower_ok {b : Workbench} {environment : Environment} {symbol : String} {e : Entry}
    (hlower : (Workbench.lower s.routine).result (bench s) = (.ok (), b))
    (henv : b.lowerer.environment? = some environment)
    (hfin : Library.finalize.result b.library = (.ok (), { b.library with finalized := true }))
    (hs : b.lowerer.entrySymbol s.routine = symbol)
    (he : b.library.resolution symbol s.routine.arity b.symbols = .ok e) :
    lowering.run.result s =
      (.ok true, { s with
        metadata := b.metadata
        symbols := b.symbols
        result? := some (if s.settings.lowerOnly then ⟨environment, b.library, none⟩
          else ⟨environment, { b.library with finalized := true }, some e⟩) }) := by
  have hresolve := result_resolve (s := { s with metadata := b.metadata, symbols := b.symbols }) hfin hs he
  simp only [lowering, Action.result_mapError, Action.result_bind, Action.result_read, Action.result_note,
    result_lowerWith, hlower, Except.map, henv, hresolve]
  cases s.settings.lowerOnly <;> rfl

/-- **Lowering of stack code.** The pass ends exactly when the body has three-address code. It changes nothing but the
result, which has the body in the library and, if asked for, as its entry. -/
theorem result_lowering_bytecode (hk : s.strategy.kind s.settings = .bytecode) :
    lowering.run.result s =
      match s.routine.code with
      | .ok code => (.ok true, { s with result? := some (s.routine.hosted s.settings.lowerOnly code) })
      | .error e => (.error (.error e), s) := by
  cases hcode : s.routine.code with
  | error e => exact result_lowering_of_lower_error (Workbench.result_lower_bytecode_error (b := bench s) hk hcode)
  | ok code =>
    have hlower := Workbench.result_lower_bytecode_ok (b := bench s) hk rfl hcode
    have hsymbol : ((bench s).ended s.routine).entrySymbol s.routine = s.routine.symbol := by
      simp [Lowerer.entrySymbol, Workbench.ended, bench, Strategy.lowerer, hk]
    have hfound := Library.function?_define_shell s.routine code false true
    rw [result_lowering_of_lower_ok hlower rfl (Library.result_finalize_define_shell s.routine code) hsymbol
      (Library.resolution_of_function? hfound s.routine.arity s.symbols)]
    simp only [Routine.hosted, bench]
    cases s.settings.lowerOnly <;> rfl

/-- **Adoption of an artifact.** The pass ends exactly when the metadata has an artifact with an address that is not
null. It takes the artifact out, binds its symbol, and leaves a library that only declares the body. -/
theorem result_lowering_artifact (hk : s.strategy.kind s.settings = .artifact) :
    lowering.run.result s =
      match s.metadata.takeArtifact s.routine.shownName with
      | .error e => (.error (.error e), s)
      | .ok (a, rest) =>
        if a.address.isNull then (.error (.error (.codegen (.nullSymbol a.symbol))), { s with metadata := rest })
        else
          (.ok true, { s with
            metadata := rest
            symbols := s.symbols.insert a.symbol a.address
            result? := some (s.routine.grafted s.settings.lowerOnly a) }) := by
  have hlower := Workbench.result_lower_artifact (f := s.routine) (b := bench s) hk rfl
  have hmetadata : (bench s).metadata = s.metadata := rfl
  rw [hmetadata] at hlower
  cases htake : s.metadata.takeArtifact s.routine.shownName with
  | error e =>
    rw [htake] at hlower
    exact result_lowering_of_lower_error hlower
  | ok p =>
    obtain ⟨a, rest⟩ := p
    rw [htake] at hlower
    cases hnull : a.address.isNull with
    | true =>
      simp only [hnull, if_true] at hlower ⊢
      exact result_lowering_of_lower_error hlower
    | false =>
      simp only [hnull, Bool.false_eq_true, if_false] at hlower ⊢
      have hsymbol : { (bench s).ended s.routine with bound? := some a.symbol }.entrySymbol s.routine = a.symbol := by
        simp [Lowerer.entrySymbol, Workbench.ended, bench, Strategy.lowerer, hk]
      -- the symbol is looked up in the table that adoption has just bound it in
      have hbound := NameMap.find?_insert_self s.symbols a.symbol a.address
      rw [result_lowering_of_lower_ok hlower rfl (Library.result_finalize_of_not_verifies rfl) hsymbol
        (Library.resolution_of_find? (Library.function?_shell s.routine false false _) hbound s.routine.arity)]
      simp only [Routine.grafted, bench]
      cases s.settings.lowerOnly <;> rfl

/-! ## The other passes -/

theorem result_verification_run (s : State) :
    verification.run.result s = ((s.routine.verify.value.map fun _ => false).mapError .error, s) := by
  simp only [verification, Action.result_bind, Action.result_read, Action.result_mapError, Action.result_ofTraced]
  cases s.routine.verify.value <;> rfl

/-- acquisition changes nothing but the metadata, and that only by the provider's artifact -/
theorem result_acquisition_run (p : Provider) (s : State) :
    (acquisition p).run.result s =
      if s.metadata.hasArtifact then (.ok false, s)
      else
        match (p.provide s.routine).value with
        | some a => (.ok true, { s with metadata := s.metadata.insertArtifact a })
        | none => (.error (.error (.providerDeclined s.routine.shownName p.name)), s) := by
  simp only [acquisition, Action.result_bind, Action.result_read]
  split_ifs with h
  · rfl
  · simp only [Action.result_bind, Action.result_lift]
    cases (p.provide s.routine).value <;> rfl

end Pass

/-- an override gives the inner action another strategy, and puts the former one back however it ends -/
theorem State.result_withStrategy {α : Type} (strategy : Strategy) (x : Action Fault State α) (s : State) :
    (withStrategy strategy x).result s =
      ((x.result { s with strategy }).1, { (x.result { s with strategy }).2 with strategy := s.strategy }) := by
  simp [withStrategy, install, restore, replaceStrategy]

/-- where artifacts are adopted, lowering under the override adopts the one in the metadata whatever strategy
is in force -/
theorem Pass.result_substitutableLowering_on {s : State} (hon : s.settings.adoptArtifacts = true) :
    substitutableLowering.run.result s =
      match s.metadata.takeArtifact s.routine.shownName with
      | .error e => (.error (.error e), s)
      | .ok (a, rest) =>
        if a.address.isNull then (.error (.error (.codegen (.nullSymbol a.symbol))), { s with metadata := rest })
        else
          (.ok true, { s with
            metadata := rest
            symbols := s.symbols.insert a.symbol a.address
            result? := some (s.routine.grafted s.settings.lowerOnly a) }) := by
  have hkind : Strategy.kind .substitute s.settings = .artifact := by simp [Strategy.kind, hon]
  have hover := State.result_withStrategy .substitute lowering.run s
  rw [result_lowering_artifact (s := { s with strategy := .substitute }) hkind] at hover
  refine Eq.trans hover ?_
  dsimp only
  cases s.metadata.takeArtifact s.routine.shownName with
  | error e => rfl
  | ok p =>
    obtain ⟨a, rest⟩ := p
    dsimp only
    split_ifs <;> rfl

/-! ## Pipelines -/

/-- a pass of a pipeline ends as the pass ends, unless it analyses only and reports a change -/
theorem Pass.result_perform (p : Pass) (s : State) :
    p.perform.result s =
      match p.run.result s with
      | (.ok changed, t) =>
        if changed && p.info.analysisOnly then (.error (.error (.internal (.analysisMutated p.info.name))), t)
        else (.ok (), t)
      | (.error fault, t) => (.error fault, t) := by
  simp only [perform, Action.result_bind, Action.result_note, Action.result_attempt]
  rcases p.run.result s with ⟨(_ | _) | changed, t⟩
  · simp
  · simp
  · cases changed <;> cases p.info.analysisOnly <;> simp

/-- a pass that may change the state ends in the pipeline as it ends alone -/
theorem Pass.result_perform_of_transform {p : Pass} (h : p.info.analysisOnly = false) (s : State) :
    p.perform.result s = ((p.run.result s).1.map fun _ => (), (p.run.result s).2) := by
  rw [result_perform]
  rcases p.run.result s with ⟨_ | changed, t⟩
  · rfl
  · simp [h, Except.map]

namespace Pipeline

@[simp] theorem result_run (p : Pipeline) (s : State) : p.run.result s = (performAll p.passes).result s := by
  simp [run]

@[simp] theorem result_performAll_cons (p : Pass) (rest : List Pass) (s : State) :
    (performAll (p :: rest)).result s =
      match p.perform.result s with
      | (.ok _, t) => (performAll rest).result t
      | (.error fault, t) => (.error fault, t) := by
  simp only [performAll, Action.result_bind]
  rcases p.perform.result s with ⟨_ | _, t⟩ <;> rfl

/-- verification of a right body lets the rest of the pipeline run from the same state -/
theorem result_performAll_verified {s : State} (h : s.routine.verify.value = .ok ()) (rest : List Pass) :
    (performAll (Pass.verification :: rest)).result s = (performAll rest).result s := by
  rw [result_performAll_cons, Pass.result_perform, Pass.result_verification_run, h]
  rfl

/-- verification of a wrong body stops the pipeline -/
theorem result_performAll_rejected {s : State} {e : Error} (h : s.routine.verify.value = .error e) (rest : List Pass) :
    (performAll (Pass.verification :: rest)).result s = (.error (.error e), s) := by
  rw [result_performAll_cons, Pass.result_perform, Pass.result_verification_run, h]
  rfl

/-- a pipeline ends as its last pass ends, when that pass may change the state -/
theorem result_performAll_last {p : Pass} (h : p.info.analysisOnly = false) (s : State) :
    (performAll [p]).result s = ((p.run.result s).1.map fun _ => (), (p.run.result s).2) := by
  rw [result_performAll_cons, Pass.result_perform_of_transform h]
  cases (p.run.result s).1 <;> rfl

end Pipeline

end Graft
