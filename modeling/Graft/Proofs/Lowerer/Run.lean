/-
Lowerers over whole runs.

A lowerer is called step by step, each time with a routine, metadata, a library and a table of its own (`Lowerer.Call`),
so between two calls anything may happen to those. A run is any list of calls, the refused ones included.

Three of the steps work on the module in work: they are refused without one, and never lose it (`Workbench.OnModule`).
The hand-over takes the module away, and a closed library refuses it after that; it ends exactly when a library gets a
module (`Workbench.HandsOver`), and so does the lowering of a whole function. `Fate` is what has become of the last
module, read off the steps and their outcomes alone; `Lowerer.Shows` is what a lowerer looks like for each fate, and
every call keeps the two together (`shows_after`).

- `run_shows`: so it is after every run.
- `module_of_run`: hence there is an environment object exactly past the first stage, and a module exactly in the stages
  between the first and the last, unless the library refused it: then it is lost (`refused_handOver_loses_module`).
-/
import Mathlib.Tactic
import Graft.Proofs.Library.Run
import Graft.Proofs.Lowerer.Effect
import Graft.Proofs.Metadata.Artifact

namespace Graft

/-- the stages in which a function is in work -/
def Stage.Between (s : Stage) : Prop := s ≠ .start ∧ s ≠ .finalized

instance (s : Stage) : Decidable s.Between := inferInstanceAs (Decidable (s ≠ .start ∧ s ≠ .finalized))

/-- the errors of the hand-over: there is no module to hand over, or the library refuses it -/
def Error.OfHandOver : Error → Prop
  | .internal (.moduleHandedOver _) | .codegen (.moduleAfterFinalization _ _) => True
  | _ => False

namespace Workbench

/-- let the module in work be changed -/
def visit (f : Routine) (edit : Module → Module) : Action Error Workbench Unit := do
  let m ← currentModule f
  setModule (some (edit m))

end Workbench

namespace Lowerer

/-- what a lowerer can be told to do -/
inductive Step where
  | emitEnvironment
  | declare
  | visit (edit : Module → Module)
  | lowerBody
  | handOver
  | lower

def Step.action (f : Routine) : Step → Action Error Workbench Unit
  | .emitEnvironment => Workbench.emitEnvironment f
  | .declare => Workbench.declare f
  | .visit edit => Workbench.visit f edit
  | .lowerBody => Workbench.lowerBody f
  | .handOver => Workbench.handOver f
  | .lower => Workbench.lower f

/-- a step, with what it is to work on -/
structure Call where
  step : Step
  routine : Routine
  metadata : Metadata
  library : Library
  symbols : SymbolTable

/-- the workbench that the call sets up for a lowerer -/
def Call.bench (c : Call) (l : Lowerer) : Workbench := ⟨l, c.metadata, c.library, c.symbols⟩

/-- what a call is answered -/
def answer (l : Lowerer) (c : Call) : Except Error Unit := ((c.step.action c.routine).result (c.bench l)).1

/-- the lowerer after a call, ended or stopped -/
def after (l : Lowerer) (c : Call) : Lowerer := ((c.step.action c.routine).result (c.bench l)).2.lowerer

/-- the lowerer after calls in order, from a new one -/
def run (kind : Kind) (calls : List Call) : Lowerer := calls.foldl after { kind }

/-! ## The fate of the last module -/

/-- what has become of the module that was begun last -/
inductive Fate where
  /-- none was begun -/
  | unbegun
  | held
  | handedOver
  /-- the library has refused it -/
  | lost
deriving DecidableEq

/-- the fate after a hand-over with a given outcome -/
def Fate.afterHandOver (fate : Fate) : Except Error Unit → Fate
  | .ok _ => .handedOver
  | .error (.codegen (.moduleAfterFinalization _ _)) => .lost
  | .error _ => fate

theorem Fate.afterHandOver_of_not_ofHandOver (fate : Fate) {e : Error} (h : ¬ e.OfHandOver) :
    fate.afterHandOver (.error e) = fate := by
  unfold afterHandOver
  split
  · contradiction
  · rename_i heq
    cases heq
    exact absurd trivial h
  · rfl

theorem Fate.afterHandOver_eq_handedOver {fate : Fate} {outcome : Except Error Unit}
    (h : fate.afterHandOver outcome = .handedOver) :
    outcome = .ok () ∨ fate = .handedOver := by
  unfold afterHandOver at h
  split at h
  · exact Or.inl rfl
  · cases h
  · exact Or.inr h

theorem Fate.refused_of_afterHandOver_eq_lost {fate : Fate} {outcome : Except Error Unit}
    (h : fate.afterHandOver outcome = .lost) (hfate : fate ≠ .lost) :
    ∃ module library, outcome = .error (.codegen (.moduleAfterFinalization module library)) := by
  unfold afterHandOver at h
  split at h
  · cases h
  · exact ⟨_, _, rfl⟩
  · exact absurd h hfate

/-- the fate after a step with a given outcome -/
def Fate.next (fate : Fate) : Step → Except Error Unit → Fate
  | .emitEnvironment, _ => .held
  | .handOver, outcome => fate.afterHandOver outcome
  -- a module is begun first
  | .lower, outcome => Fate.held.afterHandOver outcome
  | _, _ => fate

/-- a lowerer, and the fate of its last module -/
structure Watched where
  lowerer : Lowerer
  fate : Fate

def Watched.after (w : Watched) (c : Call) : Watched :=
  ⟨w.lowerer.after c, w.fate.next c.step (w.lowerer.answer c)⟩

def watch (kind : Kind) (calls : List Call) : Watched := calls.foldl Watched.after ⟨{ kind }, .unbegun⟩

/-- the fate of the last module after calls in order -/
def fate (kind : Kind) (calls : List Call) : Fate := (watch kind calls).fate

/-- watching a lowerer makes no difference to it -/
theorem lowerer_watch (kind : Kind) (calls : List Call) : (watch kind calls).lowerer = run kind calls := by
  unfold watch run
  induction calls using List.reverseRecOn with
  | nil => rfl
  | append_singleton calls c ih =>
    rw [List.foldl_append, List.foldl_append, List.foldl_cons, List.foldl_cons, List.foldl_nil, List.foldl_nil, ← ih]
    rfl

theorem fate_concat (kind : Kind) (calls : List Call) (c : Call) :
    fate kind (calls ++ [c]) = (fate kind calls).next c.step ((run kind calls).answer c) := by
  rw [← lowerer_watch]
  simp [fate, watch, Watched.after]

theorem run_concat (kind : Kind) (calls : List Call) (c : Call) :
    run kind (calls ++ [c]) = (run kind calls).after c := by
  simp [run]

/-- what a lowerer looks like when its last module has a given fate -/
def Shows (l : Lowerer) : Fate → Prop
  | .unbegun => l.environment? = none ∧ l.module? = none ∧ l.stage = .start
  | .held => l.environment?.isSome ∧ l.module?.isSome ∧ l.stage.Between
  | .handedOver => l.environment?.isSome ∧ l.module? = none ∧ l.stage = .finalized
  | .lost => l.environment?.isSome ∧ l.module? = none ∧ l.stage.Between

namespace Shows

variable {l : Lowerer} {fate : Fate}

theorem module?_eq_none_iff (h : l.Shows fate) : l.module? = none ↔ fate ≠ .held := by
  cases fate with
  | unbegun => simp [h.2.1]
  | held => simp [Option.isSome_iff_ne_none.1 h.2.1]
  | handedOver => simp [h.2.1]
  | lost => simp [h.2.1]

theorem environment?_isSome_iff (h : l.Shows fate) : l.environment?.isSome ↔ l.stage ≠ .start := by
  cases fate with
  | unbegun => simp [h.1, h.2.2]
  | held => simp [h.1, h.2.2.1]
  | handedOver => simp [h.1, h.2.2]
  | lost => simp [h.1, h.2.2.1]

theorem module?_isSome_iff (h : l.Shows fate) : l.module?.isSome ↔ l.stage.Between ∧ fate ≠ .lost := by
  cases fate with
  | unbegun => simp [h.2.1, h.2.2, Stage.Between]
  | held => simp [h.2.1, h.2.2]
  | handedOver => simp [h.2.1, h.2.2, Stage.Between]
  | lost => simp [h.2.1]

end Shows

end Lowerer

namespace Workbench

variable {f : Routine} {b : Workbench}

/-! ## Steps on the module in work -/

/-- what work on the module gives: there is a module still, the environment object is the same, the stage is as it was
or that of a body, the library has the modules it had, and an error is none of the hand-over -/
structure WorkedOn (b : Workbench) (r : Except Error Unit × Workbench) : Prop where
  module : r.2.lowerer.module?.isSome
  environment : r.2.lowerer.environment? = b.lowerer.environment?
  stage : r.2.lowerer.stage = b.lowerer.stage ∨ r.2.lowerer.stage = .instructionsLowered ∨
    r.2.lowerer.stage = .artifactBound
  modules : r.2.library.modules = b.library.modules
  closed : r.2.library.finalized = b.library.finalized
  error : ∀ e, r.1 = .error e → ¬ e.OfHandOver

theorem WorkedOn.shows {r : Except Error Unit × Workbench} (h : b.WorkedOn r) (hb : b.lowerer.Shows .held) :
    r.2.lowerer.Shows .held := by
  obtain ⟨henv, -, hstage⟩ := hb
  refine ⟨by rw [h.environment]; exact henv, h.module, ?_⟩
  rcases h.stage with hs | hs | hs
  · rw [hs]; exact hstage
  · rw [hs]; decide
  · rw [hs]; decide

/-- a step that works on the module: it is refused without one, and never loses it -/
structure OnModule (f : Routine) (x : Action Error Workbench Unit) : Prop where
  refused : ∀ b : Workbench, b.lowerer.module? = none → x.result b = (.error (.internal (.noModule f.shownName)), b)
  worked : ∀ (b : Workbench) (m : Module), b.lowerer.module? = some m → b.WorkedOn (x.result b)

namespace OnModule

variable {x : Action Error Workbench Unit}

theorem error (hx : OnModule f x) {e : Error} (h : (x.result b).1 = .error e) : ¬ e.OfHandOver := by
  cases hm : b.lowerer.module? with
  | none =>
    rw [hx.refused b hm] at h
    cases h
    exact id
  | some m => exact (hx.worked b m hm).error e h

theorem ne_moduleHandedOver (hx : OnModule f x) (b : Workbench) :
    ¬ ∃ function, (x.result b).1 = .error (.internal (.moduleHandedOver function)) := by
  rintro ⟨function, h⟩
  exact hx.error h trivial

theorem modules (hx : OnModule f x) (b : Workbench) : (x.result b).2.library.modules = b.library.modules := by
  cases hm : b.lowerer.module? with
  | none => rw [hx.refused b hm]
  | some m => exact (hx.worked b m hm).modules

theorem not_taken (hx : OnModule f x) (b : Workbench) :
    ¬ ∃ m, (x.result b).2.library.modules = b.library.modules ++ [m] := by
  simp [hx.modules b]

theorem closed (hx : OnModule f x) (b : Workbench) : (x.result b).2.library.finalized = b.library.finalized := by
  cases hm : b.lowerer.module? with
  | none => rw [hx.refused b hm]
  | some m => exact (hx.worked b m hm).closed

/-- a step on the module leaves the fate of the module as it is -/
theorem shows (hx : OnModule f x) {fate : Lowerer.Fate} (h : b.lowerer.Shows fate) :
    (x.result b).2.lowerer.Shows fate := by
  by_cases hheld : fate = .held
  · subst hheld
    obtain ⟨m, hm⟩ := Option.isSome_iff_exists.1 h.2.1
    exact (hx.worked b m hm).shows h
  · rw [hx.refused b (h.module?_eq_none_iff.2 hheld)]
    exact h

end OnModule

theorem onModule_visit (f : Routine) (edit : Module → Module) : OnModule f (visit f edit) where
  refused b h := by simp [visit, currentModule, h]
  worked b m h := by
    have hresult : (visit f edit).result b =
        (.ok (), { b with lowerer := { b.lowerer with module? := some (edit m) } }) := by
      simp [visit, currentModule, h]
    rw [hresult]
    refine ⟨rfl, rfl, Or.inl rfl, rfl, rfl, ?_⟩
    rintro _ ⟨⟩

theorem onModule_declare (f : Routine) : OnModule f (declare f) := by
  -- the declaration is a visit, but for the log
  have hvisit : ∀ b, (declare f).result b = (visit f (·.declare f.symbol)).result b := fun b => by simp [declare, visit]
  have hx := onModule_visit f (·.declare f.symbol)
  refine ⟨fun b h => ?_, fun b m h => ?_⟩
  · rw [hvisit]
    exact hx.refused b h
  · rw [hvisit]
    exact hx.worked b m h

theorem not_ofHandOver_of_code {e : Error} (h : f.code = .error e) : ¬ e.OfHandOver := by
  unfold Routine.code at h
  cases hlowered : f.lowered with
  | ok code =>
    rw [hlowered] at h
    cases h
  | error p =>
    rw [hlowered] at h
    cases h
    exact id

theorem onModule_lowerBytecode (f : Routine) : OnModule f (lowerBytecode f) where
  refused b h := by simp [lowerBytecode, (onModule_declare f).refused b h]
  worked b m h := by
    cases hcode : f.code with
    | ok code =>
      rw [result_lowerBytecode_ok h hcode]
      refine ⟨rfl, rfl, Or.inr (Or.inl rfl), rfl, rfl, ?_⟩
      rintro _ ⟨⟩
    | error e =>
      rw [result_lowerBytecode_error h hcode]
      refine ⟨rfl, rfl, Or.inl rfl, rfl, rfl, ?_⟩
      rintro _ ⟨⟩
      exact not_ofHandOver_of_code hcode

theorem not_ofHandOver_of_lacks {metadata : Metadata} {function : String} {e : Error} (h : metadata.Lacks function e) :
    ¬ e.OfHandOver := by
  cases h <;> exact id

theorem onModule_bindArtifact (f : Routine) : OnModule f (bindArtifact f) where
  refused b h := by simp [bindArtifact, (onModule_declare f).refused b h]
  worked b m h := by
    rw [result_bindArtifact h]
    cases htake : b.metadata.takeArtifact f.shownName with
    | error e =>
      refine ⟨rfl, rfl, Or.inl rfl, rfl, rfl, ?_⟩
      rintro _ ⟨⟩
      exact not_ofHandOver_of_lacks (Metadata.takeArtifact_eq_error_iff.1 htake)
    | ok p =>
      dsimp only
      split_ifs
      · refine ⟨rfl, rfl, Or.inl rfl, rfl, rfl, ?_⟩
        rintro _ ⟨⟩
        exact id
      · refine ⟨rfl, rfl, Or.inr (Or.inr rfl), rfl, rfl, ?_⟩
        rintro _ ⟨⟩

theorem result_lowerBody (f : Routine) (b : Workbench) :
    (lowerBody f).result b =
      match b.lowerer.kind with
      | .bytecode => (lowerBytecode f).result b
      | .artifact => (bindArtifact f).result b := by
  simp only [lowerBody, Action.result_bind, Action.result_read]
  cases b.lowerer.kind <;> rfl

theorem onModule_lowerBody (f : Routine) : OnModule f (lowerBody f) where
  refused b h := by
    rw [result_lowerBody]
    cases b.lowerer.kind with
    | bytecode => exact (onModule_lowerBytecode f).refused b h
    | artifact => exact (onModule_bindArtifact f).refused b h
  worked b m h := by
    rw [result_lowerBody]
    cases b.lowerer.kind with
    | bytecode => exact (onModule_lowerBytecode f).worked b m h
    | artifact => exact (onModule_bindArtifact f).worked b m h

/-! ## The hand-over -/

theorem result_handOver_of_none (h : b.lowerer.module? = none) :
    (handOver f).result b = (.error (.internal (.moduleHandedOver f.shownName)), b) := by
  simp [handOver, h]

/-- a closed library refuses the module, and the lowerer has it no longer -/
theorem result_handOver_of_finalized {m : Module} (h : b.lowerer.module? = some m)
    (hclosed : b.library.finalized = true) :
    (handOver f).result b =
      (.error (.codegen (.moduleAfterFinalization m.name b.library.name)),
        { b with lowerer := { b.lowerer with module? := none } }) := by
  simp [handOver, h, Library.result_addModule_of_finalized hclosed]

theorem handOver_eq_moduleHandedOver_iff :
    (∃ function, ((handOver f).result b).1 = .error (.internal (.moduleHandedOver function))) ↔
      b.lowerer.module? = none := by
  cases hm : b.lowerer.module? with
  | none => simp [result_handOver_of_none hm]
  | some m =>
    cases hlib : b.library.finalized with
    | false => simp [result_handOver hm hlib]
    | true => simp [result_handOver_of_finalized hm hlib]

/-- a module that is held is handed over to an open library, and lost to a closed one -/
theorem shows_handOver_of_held (h : b.lowerer.Shows .held) :
    ((handOver f).result b).2.lowerer.Shows (Lowerer.Fate.held.afterHandOver ((handOver f).result b).1) := by
  obtain ⟨henv, hmodule, hstage⟩ := h
  obtain ⟨m, hm⟩ := Option.isSome_iff_exists.1 hmodule
  cases hlib : b.library.finalized with
  | false =>
    rw [result_handOver hm hlib]
    exact ⟨henv, rfl, rfl⟩
  | true =>
    rw [result_handOver_of_finalized hm hlib]
    exact ⟨henv, rfl, hstage⟩

theorem shows_handOver {fate : Lowerer.Fate} (h : b.lowerer.Shows fate) :
    ((handOver f).result b).2.lowerer.Shows (fate.afterHandOver ((handOver f).result b).1) := by
  by_cases hheld : fate = .held
  · subst hheld
    exact shows_handOver_of_held h
  · rw [result_handOver_of_none (h.module?_eq_none_iff.2 hheld)]
    exact h

/-- a step that ends exactly when the library takes a module over, and is refused only by a closed library -/
structure HandsOver (x : Action Error Workbench Unit) : Prop where
  taken : ∀ b : Workbench, (∃ m, (x.result b).2.library.modules = b.library.modules ++ [m]) ↔ (x.result b).1 = .ok ()
  refused : ∀ (b : Workbench) (module library : String),
    (x.result b).1 = .error (.codegen (.moduleAfterFinalization module library)) → b.library.finalized = true

/-- what a library gets is the module in work -/
theorem module_of_handOver_ok (h : ((handOver f).result b).1 = .ok ()) :
    ∃ m, b.lowerer.module? = some m ∧ ((handOver f).result b).2.library.modules = b.library.modules ++ [m] := by
  cases hm : b.lowerer.module? with
  | none =>
    rw [result_handOver_of_none hm] at h
    cases h
  | some m =>
    cases hlib : b.library.finalized with
    | false => exact ⟨m, rfl, by rw [result_handOver hm hlib]⟩
    | true =>
      rw [result_handOver_of_finalized hm hlib] at h
      cases h

theorem handsOver_handOver (f : Routine) : HandsOver (handOver f) where
  taken b := by
    refine ⟨?_, fun hok => ?_⟩
    · rintro ⟨m, htaken⟩
      cases hm : b.lowerer.module? with
      | none => simp [result_handOver_of_none hm] at htaken
      | some held =>
        cases hlib : b.library.finalized with
        | false => rw [result_handOver hm hlib]
        | true => simp [result_handOver_of_finalized hm hlib] at htaken
    · obtain ⟨m, -, htaken⟩ := module_of_handOver_ok hok
      exact ⟨m, htaken⟩
  refused b module library h := by
    by_contra hopen
    cases hm : b.lowerer.module? with
    | none => simp [result_handOver_of_none hm] at h
    | some m => simp [result_handOver hm (Bool.eq_false_of_not_eq_true hopen)] at h

/-! ## The whole function -/

theorem result_lower (f : Routine) (b : Workbench) :
    (lower f).result b =
      match (lowerBody f).result ((emitEnvironment f).result b).2 with
      | (.ok _, b') => (handOver f).result b'
      | (.error e, b') => (.error e, b') := by
  simp only [lower, Action.result_bind, result_emitEnvironment]
  rcases (lowerBody f).result _ with ⟨_ | _, b'⟩ <;> rfl

theorem shows_emitEnvironment (f : Routine) (b : Workbench) : ((emitEnvironment f).result b).2.lowerer.Shows .held := by
  have hready : Stage.environmentReady.Between := by decide
  rw [result_emitEnvironment]
  exact ⟨rfl, rfl, hready⟩

/-- lowering begins a module, so what becomes of it depends on the hand-over alone -/
theorem shows_lower (f : Routine) (b : Workbench) :
    ((lower f).result b).2.lowerer.Shows (Lowerer.Fate.held.afterHandOver ((lower f).result b).1) := by
  have hbody := (onModule_lowerBody f).shows (shows_emitEnvironment f b)
  rw [result_lower]
  rcases hresult : (lowerBody f).result ((emitEnvironment f).result b).2 with ⟨e | _, b'⟩
  · rw [hresult] at hbody
    have herror : ¬ e.OfHandOver := (onModule_lowerBody f).error (by rw [hresult])
    dsimp only
    rw [Lowerer.Fate.afterHandOver_of_not_ofHandOver _ herror]
    exact hbody
  · rw [hresult] at hbody
    exact shows_handOver_of_held hbody

/-- the library is as open, and has the modules it had, when the body is done -/
theorem library_of_body {r : Except Error Unit} {b' : Workbench}
    (h : (lowerBody f).result ((emitEnvironment f).result b).2 = (r, b')) :
    b'.library.modules = b.library.modules ∧ b'.library.finalized = b.library.finalized := by
  have hmodules := (onModule_lowerBody f).modules ((emitEnvironment f).result b).2
  have hclosed := (onModule_lowerBody f).closed ((emitEnvironment f).result b).2
  rw [h, result_emitEnvironment] at hmodules hclosed
  exact ⟨hmodules, hclosed⟩

theorem handsOver_lower (f : Routine) : HandsOver (lower f) where
  taken b := by
    rw [result_lower]
    rcases hresult : (lowerBody f).result ((emitEnvironment f).result b).2 with ⟨e | _, b'⟩
    · simp [(library_of_body hresult).1]
    · rw [← (library_of_body hresult).1]
      exact (handsOver_handOver f).taken b'
  refused b module library h := by
    rw [result_lower] at h
    rcases hresult : (lowerBody f).result ((emitEnvironment f).result b).2 with ⟨e | _, b'⟩
    · rw [hresult] at h
      cases h
      exact absurd trivial ((onModule_lowerBody f).error (congrArg Prod.fst hresult))
    · rw [hresult] at h
      rw [← (library_of_body hresult).2]
      exact (handsOver_handOver f).refused b' module library h

/-- a module is begun first, so there is always one to hand over -/
theorem lower_ne_moduleHandedOver (f : Routine) (b : Workbench) (function : String) :
    ((lower f).result b).1 ≠ .error (.internal (.moduleHandedOver function)) := by
  intro h
  have hbody := (onModule_lowerBody f).shows (shows_emitEnvironment f b)
  rw [result_lower] at h
  rcases hresult : (lowerBody f).result ((emitEnvironment f).result b).2 with ⟨e | _, b'⟩
  · rw [hresult] at h
    cases h
    exact absurd trivial ((onModule_lowerBody f).error (congrArg Prod.fst hresult))
  · rw [hresult] at h hbody
    have hnone := handOver_eq_moduleHandedOver_iff.1 ⟨function, h⟩
    have hsome := hbody.2.1
    rw [hnone] at hsome
    cases hsome

end Workbench

namespace Lowerer

/-! ## Runs -/

/-- every call keeps the look of the lowerer and the fate of the module together -/
theorem shows_after {l : Lowerer} {fate : Fate} (h : l.Shows fate) (c : Call) :
    (l.after c).Shows (fate.next c.step (l.answer c)) := by
  have hbench : (c.bench l).lowerer.Shows fate := h
  unfold after answer
  cases c.step with
  | emitEnvironment => exact Workbench.shows_emitEnvironment c.routine _
  | declare => exact (Workbench.onModule_declare c.routine).shows hbench
  | visit edit => exact (Workbench.onModule_visit c.routine edit).shows hbench
  | lowerBody => exact (Workbench.onModule_lowerBody c.routine).shows hbench
  | handOver => exact Workbench.shows_handOver hbench
  | lower => exact Workbench.shows_lower c.routine _

theorem run_shows (kind : Kind) (calls : List Call) : (run kind calls).Shows (fate kind calls) := by
  induction calls using List.reverseRecOn with
  | nil => exact ⟨rfl, rfl, rfl⟩
  | append_singleton calls c ih =>
    rw [run_concat, fate_concat]
    exact shows_after ih c

/-- the modules in the library of a call, after it -/
def modulesAfter (l : Lowerer) (c : Call) : List Module :=
  ((c.step.action c.routine).result (c.bench l)).2.library.modules

/-- a library grows exactly when a hand-over ends, alone or as the last part of a lowering -/
theorem modulesAfter_eq_concat_iff (l : Lowerer) (c : Call) :
    (∃ m, l.modulesAfter c = c.library.modules ++ [m]) ↔
      (c.step = .handOver ∨ c.step = .lower) ∧ l.answer c = .ok () := by
  unfold modulesAfter answer
  cases c.step with
  | emitEnvironment => simp [Step.action, Workbench.result_emitEnvironment, Call.bench]
  | declare => exact iff_of_false ((Workbench.onModule_declare c.routine).not_taken (c.bench l)) (by simp)
  | visit edit => exact iff_of_false ((Workbench.onModule_visit c.routine edit).not_taken (c.bench l)) (by simp)
  | lowerBody => exact iff_of_false ((Workbench.onModule_lowerBody c.routine).not_taken (c.bench l)) (by simp)
  | handOver =>
    rw [and_iff_right (Or.inl rfl)]
    exact (Workbench.handsOver_handOver c.routine).taken (c.bench l)
  | lower =>
    rw [and_iff_right (Or.inr rfl)]
    exact (Workbench.handsOver_lower c.routine).taken (c.bench l)

/-- the library of a call has one module more after it; by a hand-over, the one in work -/
def Delivers (l : Lowerer) (c : Call) : Prop :=
  ∃ m, (c.step = .handOver → l.module? = some m) ∧ l.modulesAfter c = c.library.modules ++ [m]

theorem delivers_iff (l : Lowerer) (c : Call) :
    l.Delivers c ↔ (c.step = .handOver ∨ c.step = .lower) ∧ l.answer c = .ok () := by
  constructor
  · rintro ⟨m, -, htaken⟩
    exact (modulesAfter_eq_concat_iff l c).1 ⟨m, htaken⟩
  · rintro ⟨hstep, hok⟩
    obtain ⟨m, htaken⟩ := (modulesAfter_eq_concat_iff l c).2 ⟨hstep, hok⟩
    refine ⟨m, fun hhand => ?_, htaken⟩
    unfold answer modulesAfter at *
    rw [hhand] at hok htaken
    obtain ⟨held, hheld, hgiven⟩ := Workbench.module_of_handOver_ok hok
    obtain rfl : held = m := by simpa using List.append_cancel_left (hgiven.symm.trans htaken)
    exact hheld

/-- there is nothing to hand over exactly when the last module is not held -/
theorem answer_moduleHandedOver_iff {l : Lowerer} {fate : Fate} (h : l.Shows fate) (c : Call) :
    (∃ function, l.answer c = .error (.internal (.moduleHandedOver function))) ↔ c.step = .handOver ∧ fate ≠ .held := by
  unfold answer
  cases c.step with
  | emitEnvironment => simp [Step.action, Workbench.result_emitEnvironment]
  | declare => exact iff_of_false ((Workbench.onModule_declare c.routine).ne_moduleHandedOver (c.bench l)) (by simp)
  | visit edit =>
    exact iff_of_false ((Workbench.onModule_visit c.routine edit).ne_moduleHandedOver (c.bench l)) (by simp)
  | lowerBody => exact iff_of_false ((Workbench.onModule_lowerBody c.routine).ne_moduleHandedOver (c.bench l)) (by simp)
  | handOver =>
    rw [and_iff_right rfl, ← h.module?_eq_none_iff]
    exact Workbench.handOver_eq_moduleHandedOver_iff
  | lower => simp [Step.action, Workbench.lower_ne_moduleHandedOver]

/-- a module counts as handed over from the call in which a library gets it, until another is begun -/
theorem next_eq_handedOver_iff {l : Lowerer} {fate : Fate} (h : l.Shows fate) (c : Call) :
    fate.next c.step (l.answer c) = .handedOver ↔
      l.Delivers c ∨ fate = .handedOver ∧ c.step ≠ .emitEnvironment ∧ c.step ≠ .lower := by
  rw [delivers_iff]
  have hanswer : c.step = .handOver → fate = .handedOver → fate.afterHandOver (l.answer c) = .handedOver := by
    intro hstep hfate
    obtain ⟨function, hnone⟩ := (answer_moduleHandedOver_iff h c).2 ⟨hstep, by rw [hfate]; decide⟩
    rw [hnone, hfate]
    rfl
  cases hstep : c.step with
  | emitEnvironment => simp [Fate.next]
  | declare => simp [Fate.next]
  | visit edit => simp [Fate.next]
  | lowerBody => simp [Fate.next]
  | handOver =>
    simp only [Fate.next, true_or, true_and, reduceCtorEq, ne_eq, not_false_eq_true, and_true]
    refine ⟨Fate.afterHandOver_eq_handedOver, ?_⟩
    rintro (hok | hfate)
    · rw [hok]
      rfl
    · exact hanswer hstep hfate
  | lower =>
    simp only [Fate.next, or_true, true_and, ne_eq, not_true_eq_false, and_false, or_false]
    refine ⟨fun hended => ?_, fun hok => by rw [hok]; rfl⟩
    exact (Fate.afterHandOver_eq_handedOver hended).resolve_right (by decide)

/-- only a closed library loses a module -/
theorem finalized_of_next_eq_lost {l : Lowerer} {fate : Fate} {c : Call} (h : fate.next c.step (l.answer c) = .lost)
    (hfate : fate ≠ .lost) : c.library.finalized = true := by
  unfold answer at h
  cases hstep : c.step with
  | emitEnvironment =>
    rw [hstep] at h
    cases h
  | declare => exact absurd (by rw [hstep] at h; exact h) hfate
  | visit edit => exact absurd (by rw [hstep] at h; exact h) hfate
  | lowerBody => exact absurd (by rw [hstep] at h; exact h) hfate
  | handOver =>
    rw [hstep] at h
    obtain ⟨module, library, hrefused⟩ := Fate.refused_of_afterHandOver_eq_lost h hfate
    exact (Workbench.handsOver_handOver c.routine).refused _ module library hrefused
  | lower =>
    rw [hstep] at h
    obtain ⟨module, library, hrefused⟩ := Fate.refused_of_afterHandOver_eq_lost h (by decide)
    exact (Workbench.handsOver_lower c.routine).refused _ module library hrefused

theorem fate_ne_lost (kind : Kind) (calls : List Call) (hopen : ∀ c ∈ calls, c.library.finalized = false) :
    fate kind calls ≠ .lost := by
  induction calls using List.reverseRecOn with
  | nil => nofun
  | append_singleton calls c ih =>
    intro hlost
    have hkept := ih fun d hd => hopen d (List.mem_append_left _ hd)
    rw [fate_concat] at hlost
    have hclosed := finalized_of_next_eq_lost hlost hkept
    rw [hopen c (by simp)] at hclosed
    cases hclosed

/-- **A lowerer shows where its module is.** After any calls, there is an environment object exactly past the first
stage, and a module exactly in the stages between the first and the last, unless a library refused it, as only a closed
one does. A hand-over fails for want of a module exactly when the last one is not held; it counts as handed over from
the call in which a library gets it, until another is begun. -/
theorem module_of_run (kind : Kind) (calls : List Call) :
    ((run kind calls).environment?.isSome ↔ (run kind calls).stage ≠ .start) ∧
      ((run kind calls).module?.isSome ↔ (run kind calls).stage.Between ∧ fate kind calls ≠ .lost) ∧
      ((∀ c ∈ calls, c.library.finalized = false) → fate kind calls ≠ .lost) ∧
      ∀ c : Call,
        ((∃ function, (run kind calls).answer c = .error (.internal (.moduleHandedOver function))) ↔
          c.step = .handOver ∧ fate kind calls ≠ .held) ∧
        (fate kind (calls ++ [c]) = .handedOver ↔
          (run kind calls).Delivers c ∨
            fate kind calls = .handedOver ∧ c.step ≠ .emitEnvironment ∧ c.step ≠ .lower) := by
  have hshows := run_shows kind calls
  refine ⟨hshows.environment?_isSome_iff, hshows.module?_isSome_iff, fate_ne_lost kind calls, fun c => ⟨?_, ?_⟩⟩
  · exact answer_moduleHandedOver_iff hshows c
  · rw [fate_concat]
    exact next_eq_handedOver_iff hshows c

/-! ## A refused hand-over -/

/-- the function of the calls below -/
def increment : Routine :=
  { name := "increment", qualifiedName := "", signature := { params := ["augend"] },
    body := [.arg 0, .load 1, .binary .add, .ret] }

/-- a step for it, with a library that is open or closed -/
def incrementCall (step : Step) (closed : Bool) : Call :=
  { step, routine := increment, metadata := NameMap.empty, symbols := NameMap.empty,
    library := { name := "arithmetic", modules := [], finalized := closed, verifies := true } }

/-- an environment object is emitted, and the module offered to a closed library -/
def refusedRun : List Call := [incrementCall .emitEnvironment false, incrementCall .handOver true]

/-- the lowerer is between the stages without a module, and when an open library comes, it has nothing to hand over -/
theorem refused_handOver_loses_module :
    (run .bytecode refusedRun).stage.Between ∧ (run .bytecode refusedRun).module? = none ∧
      fate .bytecode refusedRun = .lost ∧
      (run .bytecode refusedRun).answer (incrementCall .handOver false) =
        .error (.internal (.moduleHandedOver "increment")) := by
  exact ⟨⟨nofun, nofun⟩, rfl, rfl, rfl⟩

end Lowerer

end Graft
