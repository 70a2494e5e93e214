/-
A lowerer can be used again.

Whatever was done with a lowerer before, it keeps its kind (`kind_run`), and a lowering begins by overwriting the
module, the environment object and the stage that are left over. One thing stays: the symbol of the artifact adopted
last. What comes after overlooks that symbol, so a used lowerer does what a new one of its kind does, and at the end
remembers the old symbol if it has not adopted another artifact (`result_lower_remember`).

A lowering of artifacts that ends has set a new symbol (`bound?_of_lower_ok`), and a lowerer of stack code never looks
at the old one, so that can show only after a lowering that has stopped. `used_lowerer_lowers_as_new`: in all else a
used lowerer cannot be told from a new one, and once the lowering has ended not by its entry symbol either.
-/
import Mathlib.Tactic
import Graft.Proofs.Lowerer.Run
import Graft.Proofs.Lowerer.Scaffold
import Graft.Proofs.Action

namespace Graft

open Graft.Action (Follows Overlooks)

namespace Workbench

variable {f : Routine} {old : Option String}

/-! ## What a lowering overlooks -/

/-- the bench with an artifact's symbol from before on it, unless another was adopted since -/
def remember (old : Option String) (b : Workbench) : Workbench :=
  { b with lowerer := { b.lowerer with bound? := b.lowerer.bound?.or old } }

theorem overlooks_onLibrary {α : Type} (x : Action Error Library α) : Overlooks (onLibrary x) (remember old) :=
  Overlooks.focus x (fun _ => rfl) fun _ _ => rfl

theorem overlooks_onSymbols {α : Type} (x : Action Error SymbolTable α) : Overlooks (onSymbols x) (remember old) :=
  Overlooks.focus x (fun _ => rfl) fun _ _ => rfl

theorem overlooks_onMetadata {α : Type} (x : Action Error Metadata α) : Overlooks (onMetadata x) (remember old) :=
  Overlooks.focus x (fun _ => rfl) fun _ _ => rfl

theorem overlooks_setModule (m : Option Module) : Overlooks (setModule m) (remember old) :=
  Overlooks.update fun _ => rfl

theorem overlooks_advance (f : Routine) (stage : Stage) : Overlooks (advance f stage) (remember old) := by
  refine Follows.read.bind fun b => ?_
  refine Overlooks.note.bind fun _ => ?_
  exact Follows.write { b with lowerer := { b.lowerer with stage } }

theorem overlooks_currentModule (f : Routine) : Overlooks (currentModule f) (remember old) := by
  refine Follows.read.bind fun b => ?_
  dsimp only [remember]
  cases b.lowerer.module? with
  | none => exact Follows.stop _
  | some m => exact Follows.pure m

theorem overlooks_declare (f : Routine) : Overlooks (declare f) (remember old) := by
  refine Overlooks.note.bind fun _ => ?_
  exact (overlooks_currentModule f).bind fun m => overlooks_setModule _

theorem overlooks_define (f : Routine) (body : Body) : Overlooks (define f body) (remember old) :=
  (overlooks_currentModule f).bind fun _ => overlooks_setModule _

theorem overlooks_handOver (f : Routine) : Overlooks (handOver f) (remember old) := by
  refine Follows.read.bind fun b => ?_
  dsimp only [remember]
  cases b.lowerer.module? with
  | none => exact Follows.stop _
  | some m =>
    refine (overlooks_setModule none).bind fun _ => ?_
    refine (overlooks_onLibrary _).bind fun _ => ?_
    exact overlooks_advance f .finalized

theorem overlooks_lowerBytecode (f : Routine) : Overlooks (lowerBytecode f) (remember old) := by
  refine (overlooks_declare f).bind fun _ => ?_
  refine (Overlooks.ofTraced f.lower).bind fun code => ?_
  refine Overlooks.note.bind fun _ => ?_
  refine (overlooks_define f _).bind fun _ => ?_
  exact overlooks_advance f .instructionsLowered

/-- an adoption puts the symbol of its artifact in place of an old one -/
theorem overlooks_bindArtifact (f : Routine) : Overlooks (bindArtifact f) (remember old) := by
  refine (overlooks_declare f).bind fun _ => ?_
  refine (overlooks_onLibrary _).bind fun _ => ?_
  refine (overlooks_onMetadata _).bind fun a => ?_
  refine Overlooks.noteIf ?_
  refine (overlooks_onSymbols _).bind fun _ => ?_
  refine Overlooks.note.bind fun _ => ?_
  -- from here on it makes no difference what was remembered
  refine Overlooks.bind (Overlooks.update fun _ => rfl) fun _ => ?_
  exact overlooks_advance f .artifactBound

theorem overlooks_lowerBody (f : Routine) : Overlooks (lowerBody f) (remember old) := by
  refine Follows.read.bind fun b => ?_
  dsimp only [remember]
  cases b.lowerer.kind with
  | bytecode => exact overlooks_lowerBytecode f
  | artifact => exact overlooks_bindArtifact f

/-! ## From a used lowerer to a new one -/

/-- emitting the environment object overwrites all that a lowerer has left over, but for the symbol of an artifact -/
theorem emitEnvironment_remember (f : Routine) (l : Lowerer) (m : Metadata) (library : Library) (t : SymbolTable) :
    ((emitEnvironment f).result ⟨l, m, library, t⟩).2 =
      remember l.bound? ((emitEnvironment f).result (fresh l.kind m library t)).2 := by
  rw [result_emitEnvironment, result_emitEnvironment]
  rfl

/-- **A used lowerer against a new one of its kind.** They end alike and leave the same on the bench, except that the
used one still has the symbol of an artifact from before when the lowering has not set another. -/
theorem result_lower_remember (f : Routine) (l : Lowerer) (m : Metadata) (library : Library) (t : SymbolTable) :
    (lower f).result ⟨l, m, library, t⟩ =
      (((lower f).result (fresh l.kind m library t)).1,
        remember l.bound? ((lower f).result (fresh l.kind m library t)).2) := by
  rw [result_lower, result_lower, emitEnvironment_remember, (overlooks_lowerBody f).result]
  rcases (lowerBody f).result _ with ⟨e | _, b⟩
  · rfl
  · have hended : (handOver f).result (remember l.bound? b) = _ := (overlooks_handOver f).result b
    rwa [Except.map_id] at hended

/-! ## The entry symbol -/

/-- an old symbol does not show on a lowerer of stack code, nor on one that has adopted an artifact since -/
theorem entrySymbol_remember {b : Workbench} (h : b.lowerer.kind = .artifact → b.lowerer.bound?.isSome) (g : Routine) :
    (remember old b).lowerer.entrySymbol g = b.lowerer.entrySymbol g := by
  unfold Lowerer.entrySymbol remember
  dsimp only
  cases hk : b.lowerer.kind with
  | bytecode => rfl
  | artifact =>
    obtain ⟨symbol, hsymbol⟩ := Option.isSome_iff_exists.1 (h hk)
    rw [hsymbol]
    rfl

/-- only an open library lets a hand-over end -/
theorem open_of_handOver_ok {b : Workbench} (h : ((handOver f).result b).1 = .ok ()) : b.library.finalized = false := by
  obtain ⟨held, hm, -⟩ := module_of_handOver_ok h
  by_contra hclosed
  rw [result_handOver_of_finalized hm (Bool.eq_true_of_not_eq_false hclosed)] at h
  cases h

theorem open_of_lower_ok {b : Workbench} (h : ((lower f).result b).1 = .ok ()) : b.library.finalized = false := by
  rw [result_lower] at h
  rcases hbody : (lowerBody f).result ((emitEnvironment f).result b).2 with ⟨e | _, b'⟩
  · rw [hbody] at h
    cases h
  · rw [hbody] at h
    rw [← (library_of_body hbody).2]
    exact open_of_handOver_ok h

/-- an adoption that ends has set the symbol of its artifact -/
theorem bound?_of_lower_ok {m : Metadata} {library : Library} {t : SymbolTable}
    (h : ((lower f).result (fresh .artifact m library t)).1 = .ok ()) :
    ((lower f).result (fresh .artifact m library t)).2.lowerer.bound?.isSome := by
  have hopen : library.finalized = false := open_of_lower_ok h
  rcases hlower : (lower f).result (fresh .artifact m library t) with ⟨outcome, ended⟩
  rw [hlower] at h
  obtain rfl : outcome = .ok () := h
  obtain ⟨a, -, -, rfl⟩ := lower_artifact_ok hopen hlower
  rfl

/-! ## The kind -/

theorem kind_visit (f : Routine) (edit : Module → Module) (b : Workbench) :
    ((visit f edit).result b).2.lowerer.kind = b.lowerer.kind := by
  cases hm : b.lowerer.module? with
  | none => rw [(onModule_visit f edit).refused b hm]
  | some held => simp [visit, currentModule, hm]

theorem kind_declare (f : Routine) (b : Workbench) : ((declare f).result b).2.lowerer.kind = b.lowerer.kind := by
  cases hm : b.lowerer.module? with
  | none => rw [(onModule_declare f).refused b hm]
  | some held => rw [result_declare hm]

theorem kind_lowerBody (f : Routine) (b : Workbench) : ((lowerBody f).result b).2.lowerer.kind = b.lowerer.kind := by
  cases hm : b.lowerer.module? with
  | none => rw [(onModule_lowerBody f).refused b hm]
  | some held =>
    rw [result_lowerBody]
    cases hk : b.lowerer.kind with
    | bytecode =>
      cases hcode : f.code with
      | ok code => simp only [result_lowerBytecode_ok hm hcode, hk]
      | error e => simp only [result_lowerBytecode_error hm hcode, hk]
    | artifact =>
      dsimp only
      rw [result_bindArtifact hm]
      cases b.metadata.takeArtifact f.shownName with
      | error e => exact hk
      | ok p =>
        dsimp only
        split_ifs <;> exact hk

theorem kind_handOver (f : Routine) (b : Workbench) : ((handOver f).result b).2.lowerer.kind = b.lowerer.kind := by
  cases hm : b.lowerer.module? with
  | none => rw [result_handOver_of_none hm]
  | some held =>
    cases hlib : b.library.finalized with
    | false => rw [result_handOver hm hlib]
    | true => rw [result_handOver_of_finalized hm hlib]

theorem kind_lower (f : Routine) (b : Workbench) : ((lower f).result b).2.lowerer.kind = b.lowerer.kind := by
  have hbody := kind_lowerBody f ((emitEnvironment f).result b).2
  rw [result_emitEnvironment] at hbody
  rw [result_lower, result_emitEnvironment]
  rcases hresult : (lowerBody f).result _ with ⟨e | _, b'⟩
  · rw [hresult] at hbody
    exact hbody
  · rw [hresult] at hbody
    exact (kind_handOver f b').trans hbody

/-! ## Any history -/

/-- two lowerings of a function cannot be told apart: they end alike and leave the same on the bench, and once they have
ended the function is reached under the same symbol -/
structure SameLowering (r r' : Except Error Unit × Workbench) : Prop where
  outcome : r.1 = r'.1
  metadata : r.2.metadata = r'.2.metadata
  library : r.2.library = r'.2.library
  symbols : r.2.symbols = r'.2.symbols
  stage : r.2.lowerer.stage = r'.2.lowerer.stage
  environment : r.2.lowerer.environment? = r'.2.lowerer.environment?
  module : r.2.lowerer.module? = r'.2.lowerer.module?
  entrySymbol : r.1 = .ok () → ∀ g, r.2.lowerer.entrySymbol g = r'.2.lowerer.entrySymbol g

end Workbench

namespace Lowerer

open Workbench (SameLowering fresh lower)

theorem entrySymbol_of_artifact {l : Lowerer} (h : l.kind = .artifact) (f : Routine) :
    l.entrySymbol f = l.bound?.getD f.symbol := by
  rw [entrySymbol, h]

/-- no call changes the kind -/
theorem kind_after (l : Lowerer) (c : Call) : (l.after c).kind = l.kind := by
  unfold after
  cases c.step with
  | emitEnvironment =>
    exact congrArg (fun r => r.2.lowerer.kind) (Workbench.result_emitEnvironment c.routine (c.bench l))
  | declare => exact Workbench.kind_declare c.routine (c.bench l)
  | visit edit => exact Workbench.kind_visit c.routine edit (c.bench l)
  | lowerBody => exact Workbench.kind_lowerBody c.routine (c.bench l)
  | handOver => exact Workbench.kind_handOver c.routine (c.bench l)
  | lower => exact Workbench.kind_lower c.routine (c.bench l)

theorem kind_run (kind : Kind) (calls : List Call) : (run kind calls).kind = kind := by
  induction calls using List.reverseRecOn with
  | nil => rfl
  | append_singleton calls c ih => rw [run_concat, kind_after, ih]

/-- **A lowerer can be used again.** After any calls, ended or stopped, a lowering with it cannot be told from a
lowering with a new lowerer of its kind, whatever function, metadata, library and table it is set to work on. -/
theorem used_lowerer_lowers_as_new (kind : Kind) (calls : List Call) (f : Routine) (m : Metadata) (library : Library)
    (t : SymbolTable) :
    SameLowering ((lower f).result ⟨run kind calls, m, library, t⟩) ((lower f).result (fresh kind m library t)) := by
  have hused := Workbench.result_lower_remember f (run kind calls) m library t
  rw [kind_run] at hused
  rw [hused]
  refine ⟨rfl, rfl, rfl, rfl, rfl, rfl, rfl, ?_⟩
  intro hok g
  apply Workbench.entrySymbol_remember
  rw [Workbench.kind_lower]
  rintro rfl
  exact Workbench.bound?_of_lower_ok hok

/-- the lowering of a function whose artifact, under the given symbol, is in the metadata -/
def incrementAdoption (symbol : String) : Call :=
  { incrementCall .lower false with metadata := Metadata.insertArtifact NameMap.empty ⟨⟨48⟩, symbol⟩ }

/-- a lowerer with the symbol of an earlier adoption on it adopts the next artifact under the symbol of that one, as a
new lowerer does; where there is none, it stops as a new lowerer does, and has the earlier symbol on it still -/
theorem used_lowerer_lowers_as_new_rebound :
    let used := run .artifact [incrementAdoption "first"]
    let adopted := (lower increment).result ((incrementAdoption "second").bench used)
    let stopped := (lower increment).result ((incrementCall .lower false).bench used)
    used.bound? = some "first" ∧
      (adopted.1 = .ok () ∧ adopted.2.lowerer.entrySymbol increment = "second" ∧
        SameLowering adopted ((lower increment).result ((incrementAdoption "second").bench { kind := .artifact }))) ∧
      stopped.1 = .error (.missingArtifact "increment" Metadata.pointerKey) ∧
        stopped.2.lowerer.entrySymbol increment = "first" ∧
        SameLowering stopped ((lower increment).result ((incrementCall .lower false).bench { kind := .artifact })) := by
  intro used adopted stopped
  have hbound : used.bound? = some "first" := by
    show ((lower increment).result ((incrementAdoption "first").bench { kind := .artifact })).2.lowerer.bound? = _
    rw [Workbench.result_lower_artifact rfl rfl]
    rfl
  have hkind : used.kind = .artifact := kind_run .artifact [incrementAdoption "first"]
  have hadopted : adopted = _ := Workbench.result_lower_artifact hkind rfl
  have hstopped : stopped = _ := Workbench.result_lower_artifact hkind rfl
  refine ⟨hbound, ⟨?_, ?_, used_lowerer_lowers_as_new .artifact [incrementAdoption "first"] increment _ _ _⟩, ?_, ?_,
    used_lowerer_lowers_as_new .artifact [incrementAdoption "first"] increment _ _ _⟩
  · rw [hadopted]
    rfl
  · rw [hadopted, entrySymbol_of_artifact]
    · rfl
    · exact hkind
  · rw [hstopped]
    rfl
  · rw [hstopped, entrySymbol_of_artifact]
    · exact congrArg (Option.getD · increment.symbol) hbound
    · exact hkind

end Lowerer

end Graft
