/-
Lowering only, against lowering and resolving.

Compilers that differ in the switch `lowerOnly` alone do the same up to the library with the body in it. What the one
leaves out is resolution, and in the libraries that lowering makes resolution cannot fail (`executable_hosted`,
`executable_grafted`): a lowered body is the one symbol that its library declares, and an adopted one is bound in the
table by its lowering.

`lowerOnly_skips_resolution`: so both compilations fail alike, or both end alike but for the entry and the library's
being closed, and the entry is the one that the open library resolves to afterwards.
-/
import Mathlib.Tactic
import Graft.Proofs.Compiler.Call

namespace Graft

/-! ## Resolution in the libraries that lowering makes -/

namespace Routine

/-- the open library with a lowered body resolves the body's symbol over every table -/
theorem executable_hosted (f : Routine) (code : List Instr) (t : SymbolTable) :
    (Library.executable f.symbol f.arity t).result (f.hosted true code).library =
      (.ok (.lowered (f.bodyOf code)), (f.hosted false code).library) := by
  have hfinalize : Library.finalize.result (f.hosted true code).library =
      (.ok (), { (f.hosted true code).library with finalized := true }) := Library.result_finalize_define_shell f code
  have hbody : (f.hosted true code).library.function? f.symbol = some (f.bodyOf code) :=
    Library.function?_define_shell f code false true
  rw [Library.result_executable hfinalize, Library.resolution_of_function? hbody]
  rfl

/-- the open library of an adopted body resolves the artifact's symbol over the table that binds it -/
theorem executable_grafted (f : Routine) (a : Artifact) (t : SymbolTable) :
    (Library.executable a.symbol f.arity (t.insert a.symbol a.address)).result (f.grafted true a).library =
      (.ok (.native a.symbol a.address f.arity), (f.grafted false a).library) := by
  have hfinalize := Library.result_finalize_of_not_verifies (l := (f.grafted true a).library) rfl
  have hnone : (f.grafted true a).library.function? a.symbol = none := Library.function?_shell f false false a.symbol
  rw [Library.result_executable hfinalize,
    Library.resolution_of_find? hnone (NameMap.find?_insert_self t a.symbol a.address)]
  rfl

end Routine

/-! ## The two compilations -/

/-- the compilation with its library closed and an entry in it, and with the switch in the other position -/
def Compiled.resolved (done : Compiled) (entry : Entry) : Compiled where
  route := done.route
  state := { done.state with settings := { done.state.settings with lowerOnly := false } }
  result := { done.result with library := { done.result.library with finalized := true }, entry := some entry }

namespace Compiler

/-- the compiler with the switch in the given position -/
def withLowerOnly (c : Compiler) (lowerOnly : Bool) : Compiler := { c with settings := { c.settings with lowerOnly } }

/-- the two compilations end, and differ in resolution only -/
def SkipsResolution (c : Compiler) (f : Routine) (m : Metadata) (t : SymbolTable) : Prop :=
  ∃ done entry after,
    ((c.withLowerOnly true).compile f m).result t = (.ok done, after) ∧
    ((c.withLowerOnly false).compile f m).result t = (.ok (done.resolved entry), after) ∧
    done.result.entry = none ∧ done.result.library.finalized = false ∧
    (Library.executable entry.symbol f.arity after).result done.result.library =
      (.ok entry, (done.resolved entry).result.library)

variable {c : Compiler} {f : Routine} {m : Metadata} {t : SymbolTable}

/-- compilations that lower the stack code, on the same route -/
theorem skipsResolution_of_hosted {route : Route} {code : List Instr}
    (h : ∀ lowerOnly, ((c.withLowerOnly lowerOnly).compile f m).result t =
      (.ok ⟨route, State.new f (c.withLowerOnly lowerOnly).settings t m, f.hosted lowerOnly code⟩, t)) :
    c.SkipsResolution f m t :=
  ⟨_, .lowered (f.bodyOf code), t, h true, h false, rfl, rfl, f.executable_hosted code t⟩

/-- compilations that adopt the same artifact -/
theorem skipsResolution_of_grafted {a : Artifact} {rest : Metadata}
    (h : ∀ lowerOnly, ((c.withLowerOnly lowerOnly).compile f m).result t =
      (.ok ⟨.native, State.new f (c.withLowerOnly lowerOnly).settings (t.insert a.symbol a.address) rest,
        f.grafted lowerOnly a⟩, t.insert a.symbol a.address)) :
    c.SkipsResolution f m t :=
  ⟨_, .native a.symbol a.address f.arity, t.insert a.symbol a.address, h true, h false, rfl, rfl,
    f.executable_grafted a t⟩

/-- with metadata for the lowering, both positions of the switch depend on the artifact in them alike -/
theorem skipsResolution_of_offered (hver : f.verify.value = .ok ()) (hon : c.settings.adoptArtifacts = true)
    {offered : Metadata} (hoffered : c.offered? f m = some offered) :
    (∃ e, ∀ lowerOnly, ((c.withLowerOnly lowerOnly).compile f m).result t = (.error (.error e), t)) ∨
      c.SkipsResolution f m t := by
  have hall (lowerOnly : Bool) := compile_of_offered (c := c.withLowerOnly lowerOnly) hver hon hoffered t
  cases htake : offered.takeArtifact f.shownName with
  | error e =>
    simp only [htake] at hall
    exact Or.inl ⟨e, hall⟩
  | ok p =>
    obtain ⟨a, rest⟩ := p
    simp only [htake] at hall
    cases hnull : a.address.isNull with
    | true =>
      simp only [hnull, if_true] at hall
      exact Or.inl ⟨_, hall⟩
    | false =>
      simp only [hnull, Bool.false_eq_true, if_false] at hall
      exact Or.inr (skipsResolution_of_grafted hall)

/-- **Lowering only skips resolution**, for every compiler, routine, metadata and table. Either both positions of the
switch fail with the same error, or both end: on the same route, with the same environment object, metadata and table,
and with libraries that have the same name, modules and verification. The one library is open and comes without an
entry; the other is closed and comes with one, which is what the open library resolves to. -/
theorem lowerOnly_skips_resolution (c : Compiler) (f : Routine) (m : Metadata) (t : SymbolTable) :
    (∃ e, ∀ lowerOnly, ((c.withLowerOnly lowerOnly).compile f m).result t = (.error (.error e), t)) ∨
      c.SkipsResolution f m t := by
  cases hver : f.verify.value with
  | error e => exact Or.inl ⟨e, fun _ => compile_of_rejected hver t⟩
  | ok _ =>
    obtain ⟨code, -, hcode⟩ := Routine.code_of_verify hver
    cases hon : c.settings.adoptArtifacts with
    | false => exact Or.inr (skipsResolution_of_hosted fun lowerOnly =>
        compile_of_off (c := c.withLowerOnly lowerOnly) hver hon hcode t)
    | true =>
      cases hoffered : c.offered? f m with
      | none => exact Or.inr (skipsResolution_of_hosted fun lowerOnly =>
          compile_of_declined (c := c.withLowerOnly lowerOnly) hver hon hoffered hcode t)
      | some offered => exact skipsResolution_of_offered hver hon hoffered

/-- a compilation that ends with its entry resolved does not fail in either position of the switch -/
theorem not_fails_of_ok {done : Compiled} {after : SymbolTable}
    (h : ((c.withLowerOnly false).compile f m).result t = (.ok done, after)) :
    ¬ ∃ e, ∀ lowerOnly, ((c.withLowerOnly lowerOnly).compile f m).result t = (.error (.error e), t) := by
  intro ⟨e, hfails⟩
  rw [hfails false] at h
  cases h

/-- the kernel for the first demonstration is adopted, and the last one, for which there is none, is lowered; the
resolution of both can be skipped -/
theorem lowerOnly_skips_resolution_demos :
    (∃ done after, ((adopting Builtin.precompiled).compile Builtin.demos[0].1 NameMap.empty).result NameMap.empty =
        (.ok done, after) ∧ done.result.entry.map Entry.isNative = some true ∧
      (adopting Builtin.precompiled).SkipsResolution Builtin.demos[0].1 NameMap.empty NameMap.empty) ∧
    ∃ done after, ((adopting Builtin.precompiled).compile Builtin.demos[2].1 NameMap.empty).result NameMap.empty =
        (.ok done, after) ∧ done.result.entry.map Entry.isNative = some false ∧
      (adopting Builtin.precompiled).SkipsResolution Builtin.demos[2].1 NameMap.empty NameMap.empty := by
  have hkernel : Builtin.precompiled.find? "madd" = some (⟨0x6f3b2d81a480⟩, 3) := by decide
  have hnone : Builtin.precompiled.find? "negdiff" = none := by decide
  refine ⟨?_, ?_⟩
  · obtain ⟨done, after, hdone, hgrafted⟩ :=
      compile_adopting_of_find? (f := Builtin.demos[0].1) (m := NameMap.empty) rfl rfl rfl hkernel rfl NameMap.empty
    refine ⟨done, after, hdone, by rw [hgrafted]; rfl, ?_⟩
    exact (lowerOnly_skips_resolution _ _ _ _).resolve_left (not_fails_of_ok hdone)
  · obtain ⟨done, after, hdone, ⟨address, hfind, -⟩ | ⟨-, hhosted⟩⟩ :=
      compile_adopting (p := Builtin.precompiled) (f := Builtin.demos[2].1) (m := NameMap.empty) rfl rfl rfl
        (fun a ha => by cases ha.symm.trans hnone) NameMap.empty
    · cases hfind.symm.trans hnone
    · refine ⟨done, after, hdone, by rw [hhosted]; rfl, ?_⟩
      exact (lowerOnly_skips_resolution _ _ _ _).resolve_left (not_fails_of_ok hdone)

end Compiler

end Graft
