/-
A routine without a qualified name is compiled as if its short name were the qualified one.

`Routine.qualified` fills the name in. All that is made from a routine is made from its shown name, its short name, its
signature and its body, and none of these changes: neither symbol nor environment object, neither verification nor code.
So a lowerer does the very same with both routines (`lower_qualified`). The passes find the routine in the state, and
overlook whether it is qualified there (`overlooks_verification`, `overlooks_acquisition`, `overlooks_lowering`); so do
pipelines of such passes (`overlooks_performAll`).

`follows_compile`: hence both compilations log the same, and stop with the same error or end with what differs in the
stored routine only. `absent_name_is_short_name` has this for the compilers with bodies compiled ahead of time, together
with the calls of what was compiled.
-/
import Mathlib.Tactic
import Graft.Proofs.Compiler.Call
import Graft.Proofs.Compiler.Isolation
import Graft.Proofs.Action

namespace Graft

open Graft.Action (Follows Overlooks)

/-! ## What is made from a routine -/

namespace Routine

@[simp] theorem name_qualified (f : Routine) : f.qualified.name = f.name := by
  unfold qualified
  split_ifs <;> rfl

@[simp] theorem signature_qualified (f : Routine) : f.qualified.signature = f.signature := by
  unfold qualified
  split_ifs <;> rfl

@[simp] theorem body_qualified (f : Routine) : f.qualified.body = f.body := by
  unfold qualified
  split_ifs <;> rfl

/-- the name that is shown was the short one before -/
@[simp] theorem shownName_qualified (f : Routine) : f.qualified.shownName = f.shownName := by
  by_cases hempty : f.qualifiedName = ""
  · simp [qualified, shownName, hempty]
  · rw [qualified, if_neg hempty]

@[simp] theorem arity_qualified (f : Routine) : f.qualified.arity = f.arity := by simp [arity]

@[simp] theorem linkName_qualified (f : Routine) : f.qualified.linkName = f.linkName := by simp [linkName]

@[simp] theorem symbol_qualified (f : Routine) : f.qualified.symbol = f.symbol := by simp [symbol]

@[simp] theorem environmentSymbol_qualified (f : Routine) : f.qualified.environmentSymbol = f.environmentSymbol := by
  simp [environmentSymbol]

@[simp] theorem environment_qualified (f : Routine) : f.qualified.environment = f.environment := by simp [environment]

@[simp] theorem invalid_qualified (f : Routine) : f.qualified.invalid = f.invalid := by
  funext p
  simp [invalid]

@[simp] theorem verify_qualified (f : Routine) : f.qualified.verify = f.verify := by simp [verify, reachable]

@[simp] theorem lowered_qualified (f : Routine) : f.qualified.lowered = f.lowered := by simp [lowered]

@[simp] theorem lower_qualified (f : Routine) : f.qualified.lower = f.lower := by simp [lower, code, visited]

end Routine

/-- a lowerer does the same with both routines -/
theorem Workbench.lower_qualified (f : Routine) : lower f.qualified = lower f := by
  simp only [lower, emitEnvironment, advance, lowerBody, lowerBytecode, bindArtifact, declare, define, currentModule,
    handOver, Routine.shownName_qualified, Routine.environmentSymbol_qualified,
    Routine.environment_qualified, Routine.symbol_qualified, Routine.arity_qualified, Routine.body_qualified,
    Routine.lower_qualified]

@[simp] theorem Lowerer.entrySymbol_qualified (l : Lowerer) (f : Routine) :
    l.entrySymbol f.qualified = l.entrySymbol f := by
  simp [entrySymbol]

/-! ## Passes -/

/-- the state with the short name filled in -/
def State.qualify (s : State) : State := { s with routine := s.routine.qualified }

/-- a provider that gives the same for both routines -/
def Provider.OverlooksName (p : Provider) : Prop := ∀ f, p.provide f.qualified = p.provide f

theorem Precompiled.overlooksName (p : Precompiled) : p.provider.OverlooksName := by
  intro f
  simp [provider, provide]

namespace Pass

theorem overlooks_verification : Overlooks verification.run State.qualify := by
  refine Follows.read.bind fun s => ?_
  simp only [State.qualify, Routine.verify_qualified]
  refine Overlooks.bind (Follows.mapError (Overlooks.ofTraced _) _) fun _ => ?_
  exact Follows.pure false

theorem overlooks_acquisition {p : Provider} (hp : p.OverlooksName) : Overlooks (acquisition p).run State.qualify := by
  refine Follows.read.bind fun s => ?_
  simp only [State.qualify, hp s.routine, Routine.shownName_qualified]
  split_ifs
  · refine Overlooks.note.bind fun _ => ?_
    exact Follows.pure false
  · refine (Overlooks.lift _).bind fun offer => ?_
    cases offer with
    | none => exact Follows.stop _
    | some a =>
      refine Overlooks.note.bind fun _ => ?_
      refine (Follows.write { s with metadata := s.metadata.insertArtifact a }).bind fun _ => ?_
      exact Follows.pure true

theorem overlooks_lowerWith (l : Lowerer) : Overlooks (lowerWith l) State.qualify := by
  refine Follows.read.bind fun s => ?_
  simp only [State.qualify, Workbench.lower_qualified]
  refine Overlooks.bind (Overlooks.embed _ ?_ ?_) fun r => Follows.pure r.2
  · intro s
    simp [State.qualify]
  · intro s b
    rfl

theorem overlooks_resolve (b : Workbench) : Overlooks (resolve b) State.qualify := by
  refine Follows.read.bind fun s => ?_
  simp only [State.qualify, Lowerer.entrySymbol_qualified, Routine.arity_qualified, Routine.shownName_qualified]
  split_ifs
  · refine Overlooks.note.bind fun _ => ?_
    exact Follows.pure (none, b.library)
  · refine Overlooks.bind (Overlooks.embed _ (fun _ => rfl) fun _ _ => rfl) fun r => ?_
    refine Overlooks.note.bind fun _ => ?_
    exact Follows.pure (some r.1, r.2)

theorem overlooks_lowering : Overlooks lowering.run State.qualify := by
  refine Follows.mapError ?_ _
  refine Follows.read.bind fun s => ?_
  simp only [State.qualify, Routine.shownName_qualified]
  refine Overlooks.note.bind fun _ => ?_
  refine (overlooks_lowerWith _).bind fun b => ?_
  cases b.lowerer.environment? with
  | none => exact Follows.stop _
  | some environment =>
    refine (overlooks_resolve b).bind fun r => ?_
    refine Overlooks.bind (Overlooks.update fun _ => rfl) fun _ => ?_
    exact Follows.pure true

end Pass

namespace State

theorem overlooks_replaceStrategy (strategy : Strategy) : Overlooks (replaceStrategy strategy) qualify := by
  refine Follows.read.bind fun s => ?_
  refine (Follows.write { s with strategy }).bind fun _ => ?_
  exact Follows.pure s.strategy

theorem overlooks_install (strategy : Strategy) : Overlooks (install strategy) qualify := by
  refine (overlooks_replaceStrategy strategy).bind fun previous => ?_
  refine Follows.read.bind fun s => ?_
  simp only [qualify, Routine.shownName_qualified]
  refine Overlooks.note.bind fun _ => ?_
  exact Follows.pure previous

theorem overlooks_restore (previous : Strategy) : Overlooks (restore previous) qualify := by
  refine (overlooks_replaceStrategy previous).bind fun overridden => ?_
  refine Follows.read.bind fun s => ?_
  simp only [qualify, Routine.shownName_qualified]
  exact Overlooks.note

theorem overlooks_withStrategy {α : Type} (strategy : Strategy) {x : Action Fault State α} (hx : Overlooks x qualify) :
    Overlooks (withStrategy strategy x) qualify := by
  refine (overlooks_install strategy).bind fun previous => ?_
  refine hx.attempt.bind fun r => ?_
  refine (overlooks_restore previous).bind fun _ => ?_
  exact Overlooks.ofExcept r

end State

/-! ## Pipelines -/

theorem Pass.overlooks_perform {g : State → State} {p : Pass} (hp : Overlooks p.run g) : Overlooks p.perform g := by
  refine Overlooks.note.bind fun _ => ?_
  refine hp.attempt.bind fun r => ?_
  rcases r with (e | _) | changed
  · exact Overlooks.note.bind fun _ => Follows.stop _
  · exact Follows.stop _
  · dsimp only
    split_ifs
    · exact Follows.stop _
    · exact Overlooks.note
    · exact Overlooks.note

namespace Pipeline

/-- a pipeline overlooks what each of its passes overlooks -/
theorem overlooks_performAll {g : State → State} {passes : List Pass} (h : ∀ p ∈ passes, Overlooks p.run g) :
    Overlooks (performAll passes) g := by
  induction passes with
  | nil => exact Follows.pure ()
  | cons p rest ih =>
    have hp := Pass.overlooks_perform (h p List.mem_cons_self)
    have hrest := ih fun q hq => h q (List.mem_cons_of_mem p hq)
    exact hp.bind fun _ => hrest

theorem overlooks_run {p : Pipeline} (h : ∀ q ∈ p.passes, Overlooks q.run State.qualify) :
    Overlooks p.run State.qualify := by
  refine Follows.read.bind fun s => ?_
  simp only [State.qualify, Routine.shownName_qualified]
  refine Overlooks.note.bind fun _ => ?_
  exact overlooks_performAll h

end Pipeline

/-! ## Compilations -/

/-- what was compiled, with the short name filled in -/
def Compiled.qualify (done : Compiled) : Compiled := { done with state := done.state.qualify }

/-- a call asks for no more than the shown name -/
theorem Compiled.call_qualify (image : Image) (done : Compiled) (args : List Int64) :
    done.qualify.call image args = done.call image args := by
  simp [call, qualify, State.qualify]

namespace Compiler

variable {c : Compiler} {f : Routine} {m : Metadata}

theorem overlooks_nativePipeline (hc : ∀ p, c.provider? = some p → p.OverlooksName) :
    Overlooks c.nativePipeline.run State.qualify := by
  apply Pipeline.overlooks_run
  intro q hq
  simp only [nativePipeline, acquisitions, List.cons_append, List.mem_cons, List.mem_append, List.not_mem_nil,
    or_false] at hq
  rcases hq with rfl | hq | rfl
  · exact Pass.overlooks_verification
  · split_ifs at hq
    · obtain ⟨p, hp, rfl⟩ := List.mem_map.1 hq
      exact Pass.overlooks_acquisition (hc p (Option.mem_toList.1 hp))
    · cases hq
  · exact State.overlooks_withStrategy .substitute Pass.overlooks_lowering

theorem overlooks_standardPipeline : Overlooks standardPipeline.run State.qualify := by
  apply Pipeline.overlooks_run
  intro q hq
  rcases List.mem_pair.1 hq with rfl | rfl
  · exact Pass.overlooks_verification
  · exact Pass.overlooks_lowering

theorem follows_attempt {p : Pipeline} (hp : Overlooks p.run State.qualify) :
    Follows id (Prod.map id State.qualify) (c.attempt p f m) (c.attempt p f.qualified m) :=
  Follows.embed hp.attempt (fun _ => rfl) fun _ _ => rfl

theorem follows_finish (route : Route) (s : State) :
    Follows id Compiled.qualify (finish route s) (finish route s.qualify) := by
  unfold finish
  simp only [State.qualify, Routine.shownName_qualified]
  cases s.result? with
  | none => exact Follows.stop _
  | some result =>
    refine Overlooks.note.bind fun _ => ?_
    exact Follows.pure (Compiled.mk route { s with result? := none } result)

/-- **Both compilations do the same.** They log the same, and stop with the same error or end with what differs in the
stored routine only, over the same table. -/
theorem follows_compile (hc : ∀ p, c.provider? = some p → p.OverlooksName) :
    Follows id Compiled.qualify (c.compile f m) (c.compile f.qualified m) := by
  refine (follows_attempt (overlooks_nativePipeline hc)).bind fun r => ?_
  rcases r with ⟨(e | _) | _, s⟩
  · dsimp only [Prod.map, id]
    split_ifs
    -- the provider has declined: both requests are compiled anew, from the table as it came
    · refine Overlooks.note.bind fun _ => ?_
      refine (follows_attempt overlooks_standardPipeline).bind fun r' => ?_
      rcases r' with ⟨fault | _, s'⟩
      · exact Follows.stop _
      · exact follows_finish .standard s'
    · exact Follows.stop _
  · exact Follows.stop _
  · exact follows_finish .native s

/-- the routine that is stored is the one of the request -/
theorem routine_of_compile_ok {t after : SymbolTable} {done : Compiled}
    (h : (c.compile f m).result t = (.ok done, after)) : done.state.routine = f := by
  have hrequest : (Request.mk c f m).compile.result t = (.ok done, after) := h
  cases hadopted : (Request.mk c f m).adopted? with
  | some a =>
    obtain ⟨rest, hall⟩ := Request.compile_of_adopted?_eq_some hadopted
    rw [hall] at hrequest
    cases hrequest
    rfl
  | none =>
    rcases Request.compile_of_adopted?_eq_none hadopted with ⟨e, hall⟩ | ⟨route, code, hall⟩
    · rw [hall] at hrequest
      cases hrequest
    · rw [hall] at hrequest
      cases hrequest
      rfl

/-- the answers to requests for `f` and for `g` are the same error, or compilations that differ in the stored routine
only and cannot be told apart by calls -/
inductive AlikeButRoutine (f g : Routine) : Except Fault Compiled → Except Fault Compiled → Prop where
  | stopped (fault : Fault) : AlikeButRoutine f g (.error fault) (.error fault)
  | compiled (done done' : Compiled) (stored : done.state.routine = f)
      (same : done' = { done with state := { done.state with routine := g } })
      (calls : ∀ image args, done'.call image args = done.call image args) :
      AlikeButRoutine f g (.ok done) (.ok done')

/-- the compilations of `f` and of `g` log the same, leave the same table, and give answers that differ in the stored
routine only -/
structure SameCompilation (f g : Routine) (x y : Traced (Except Fault Compiled × SymbolTable)) : Prop where
  log : y.events = x.events
  table : y.value.2 = x.value.2
  answer : AlikeButRoutine f g x.value.1 y.value.1

/-- where a provider does not see it either, filling the name in makes no difference but for the stored routine -/
theorem sameCompilation_qualified (hc : ∀ p, c.provider? = some p → p.OverlooksName) (t : SymbolTable) :
    SameCompilation f f.qualified (c.compile f m t) (c.compile f.qualified m t) := by
  have hfollows := follows_compile (f := f) (m := m) hc
  have hlong : (c.compile f.qualified m t).value =
      ((c.compile f m t).value.1.map Compiled.qualify, (c.compile f m t).value.2) := hfollows.result t
  refine ⟨hfollows.events t, by rw [hlong], ?_⟩
  rw [hlong]
  rcases hshort : (c.compile f m t).value with ⟨fault | done, after⟩
  · exact .stopped fault
  · have hstored : done.state.routine = f := routine_of_compile_ok hshort
    refine .compiled done done.qualify hstored ?_ fun image args => done.call_qualify image args
    rw [← hstored]
    rfl

/-- a compiler with bodies compiled ahead of time, or without a provider -/
def precompiling (settings : Settings) (bodies? : Option Precompiled) : Compiler :=
  { settings, provider? := bodies?.map Precompiled.provider }

theorem overlooksName_of_precompiling {settings : Settings} {bodies? : Option Precompiled} {p : Provider}
    (h : (precompiling settings bodies?).provider? = some p) : p.OverlooksName := by
  obtain ⟨bodies, -, rfl⟩ := Option.map_eq_some_iff.1 h
  exact bodies.overlooksName

/-- **An absent qualified name means the short name.** Take a routine without a qualified name, and the same routine
with its short name as the qualified one. For all settings, bodies compiled ahead of time or none, metadata and tables,
both compilations log the same and leave the same table. They stop with the same error, or end with what differs in the
stored routine only; then all calls give the same. -/
theorem absent_name_is_short_name (settings : Settings) (bodies? : Option Precompiled) (f : Routine)
    (hf : f.qualifiedName = "") (m : Metadata) (t : SymbolTable) :
    SameCompilation f { f with qualifiedName := f.name } ((precompiling settings bodies?).compile f m t)
      ((precompiling settings bodies?).compile { f with qualifiedName := f.name } m t) := by
  have hqualified : f.qualified = { f with qualifiedName := f.name } := if_pos hf
  rw [← hqualified]
  apply sameCompilation_qualified
  intro p hp
  exact overlooksName_of_precompiling hp

/-- a function without a qualified name that has a body compiled ahead of time -/
def plainSquare : Routine where
  name := "square"
  qualifiedName := ""
  signature := { params := ["side"] }
  body := [.arg 0, .arg 0, .binary .mul, .ret]

/-- it is compiled, and called through the adopted body or its own according to the switch -/
theorem compile_plainSquare (adoptArtifacts : Bool) :
    ∃ done after, ((precompiling { adoptArtifacts } (some Builtin.precompiled)).compile plainSquare
        NameMap.empty).result NameMap.empty = (.ok done, after) ∧
      done.result.entry.map Entry.isNative = some adoptArtifacts := by
  have hkernel : Builtin.precompiled.find? "square" = some (⟨0x6f3b2d81a460⟩, 1) := by decide
  cases adoptArtifacts with
  | true =>
    obtain ⟨done, after, hdone, hgrafted⟩ :=
      compile_adopting_of_find? (f := plainSquare) (m := NameMap.empty) rfl rfl rfl hkernel rfl NameMap.empty
    exact ⟨done, after, hdone, by rw [hgrafted]; rfl⟩
  | false =>
    obtain ⟨done, after, hdone, hhosted⟩ :=
      compile_hosting (f := plainSquare) rfl rfl (some Builtin.precompiled.provider) NameMap.empty NameMap.empty
    exact ⟨done, after, hdone, by rw [hhosted]; rfl⟩

/-- whether the body is adopted or lowered, it does not matter which of the two is compiled -/
theorem absent_name_is_short_name_square :
    plainSquare.qualifiedName = "" ∧ ∀ adoptArtifacts,
      (∃ done after, ((precompiling { adoptArtifacts } (some Builtin.precompiled)).compile plainSquare
          NameMap.empty).result NameMap.empty = (.ok done, after) ∧
        done.result.entry.map Entry.isNative = some adoptArtifacts) ∧
      SameCompilation plainSquare { plainSquare with qualifiedName := "square" }
        ((precompiling { adoptArtifacts } (some Builtin.precompiled)).compile plainSquare NameMap.empty NameMap.empty)
        ((precompiling { adoptArtifacts } (some Builtin.precompiled)).compile
          { plainSquare with qualifiedName := "square" } NameMap.empty NameMap.empty) := by
  refine ⟨rfl, fun adoptArtifacts => ⟨compile_plainSquare adoptArtifacts, ?_⟩⟩
  exact absent_name_is_short_name { adoptArtifacts } (some Builtin.precompiled) plainSquare rfl NameMap.empty
    NameMap.empty

end Compiler

end Graft
