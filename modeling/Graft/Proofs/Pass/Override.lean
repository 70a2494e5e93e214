/-
An override of the strategy never outlives the pass that made it.

A `Plan` says how a pass is put together: it is one of the compiler's own, or an override around another plan, or around
any pass at all, which may do to the state what it likes. `strategy_run`: a pass that was put together in this way
leaves the strategy in force as it found it. The compiler's own passes never touch it, and an override puts the former
one back.

Whether a wrapped pass really runs under the strategy of its wrapper can be watched. `Plan.checked` is the same pass
with a check at the start of every pass that an override wraps, at any depth; a check that finds another strategy in
force crashes. `checked_eq_pass` says that the checks make no difference.

`pipeline_keeps_strategy` brings both to pipelines, which go on or stop after any of their passes.
-/
import Mathlib.Tactic
import Graft.Proofs.Pass.Effect

namespace Graft

namespace Pass

/-- how a pass is put together -/
inductive Plan where
  | verification
  | acquisition (provider : Provider)
  | lowering
  /-- an override around a pass that is put together in the same way -/
  | under (strategy : Strategy) (inner : Plan)
  /-- an override around any pass -/
  | around (strategy : Strategy) (inner : Pass)

/-- the pass that is planned -/
def Plan.pass : Plan → Pass
  | .verification => Pass.verification
  | .acquisition provider => Pass.acquisition provider
  | .lowering => Pass.lowering
  | .under strategy inner => Pass.under strategy inner.pass
  | .around strategy inner => Pass.under strategy inner

/-! ## What a pass leaves in force -/

theorem strategy_verification (s : State) : (verification.run.result s).2.strategy = s.strategy := by
  rw [result_verification_run]

theorem strategy_acquisition (p : Provider) (s : State) : ((acquisition p).run.result s).2.strategy = s.strategy := by
  rw [result_acquisition_run]
  split_ifs
  · rfl
  · cases (p.provide s.routine).value <;> rfl

theorem strategy_lowering (s : State) : (lowering.run.result s).2.strategy = s.strategy := by
  cases hk : s.strategy.kind s.settings with
  | bytecode =>
    rw [result_lowering_bytecode hk]
    cases s.routine.code <;> rfl
  | artifact =>
    rw [result_lowering_artifact hk]
    cases s.metadata.takeArtifact s.routine.shownName with
    | error e => rfl
    | ok p =>
      dsimp only
      split_ifs <;> rfl

/-- an override ends as the pass it wraps ends under the strategy, in the state that pass leaves but for the strategy,
which is again the one before -/
theorem result_under (strategy : Strategy) (inner : Pass) (s : State) :
    (under strategy inner).run.result s =
      ((inner.run.result { s with strategy }).1,
        { (inner.run.result { s with strategy }).2 with strategy := s.strategy }) :=
  State.result_withStrategy strategy inner.run s

/-- **One pass.** It leaves the strategy in force as it found it, whether it ends or stops. -/
theorem Plan.strategy_run (plan : Plan) (s : State) : (plan.pass.run.result s).2.strategy = s.strategy := by
  cases plan with
  | verification => exact strategy_verification s
  | acquisition provider => exact strategy_acquisition provider s
  | lowering => exact strategy_lowering s
  | under strategy inner => rw [pass, result_under]
  | around strategy inner => rw [pass, result_under]

theorem strategy_perform {p : Pass} {s : State} (h : (p.run.result s).2.strategy = s.strategy) :
    (p.perform.result s).2.strategy = s.strategy := by
  rw [result_perform]
  rcases hrun : p.run.result s with ⟨fault | changed, t⟩
  · rw [hrun] at h
    exact h
  · rw [hrun] at h
    dsimp only
    split_ifs <;> exact h

/-! ## Checks at the start of wrapped passes -/

/-- the pass with a check at its start, which crashes when another strategy is in force -/
def expecting (strategy : Strategy) (p : Pass) : Pass where
  info := p.info
  run := do
    let s ← Action.read
    if s.strategy = strategy then p.run else Action.stop .crash

/-- the planned pass, with a check at the start of each wrapped pass for the strategy of its wrapper -/
def Plan.checked : Plan → Pass
  | .under strategy inner => Pass.under strategy (inner.checked.expecting strategy)
  | .around strategy inner => Pass.under strategy (inner.expecting strategy)
  | plan => plan.pass

/-- under the expected strategy the check passes, and leaves no trace in the log either -/
theorem run_expecting {p : Pass} {strategy : Strategy} {s : State} (h : s.strategy = strategy) :
    (p.expecting strategy).run s = p.run s := by
  simp [expecting, bind, Action.bind, Action.read, h]

end Pass

/-- what an action would do under another strategy makes no difference to an override around it -/
theorem State.withStrategy_congr {α : Type} {strategy : Strategy} {x y : Action Fault State α}
    (h : ∀ s : State, s.strategy = strategy → x s = y s) : withStrategy strategy x = withStrategy strategy y := by
  funext s
  have hinside : x { s with strategy } = y { s with strategy } := h _ rfl
  simp [withStrategy, install, replaceStrategy, bind, pure, Action.bind, Action.pure, Action.read, Action.write,
    Action.note, Action.attempt, hinside]

namespace Pass

theorem under_expecting (strategy : Strategy) (inner : Pass) :
    under strategy (inner.expecting strategy) = under strategy inner := by
  have hrun : State.withStrategy strategy (inner.expecting strategy).run = State.withStrategy strategy inner.run :=
    State.withStrategy_congr fun _ hs => run_expecting hs
  rw [under, hrun]
  rfl

/-- **Checks make no difference.** Every wrapped pass, at any depth, starts under the strategy of its wrapper. -/
theorem Plan.checked_eq_pass (plan : Plan) : plan.checked = plan.pass := by
  induction plan with
  | verification => rfl
  | acquisition provider => rfl
  | lowering => rfl
  | under strategy inner ih => rw [checked, pass, under_expecting, ih]
  | around strategy inner => rw [checked, pass, under_expecting]

end Pass

namespace Pipeline

/-- **Whole runs.** Passes that each leave the strategy as they found it leave it so together, up to where they stop. -/
theorem strategy_performAll (plans : List Pass.Plan) (s : State) :
    ((performAll (plans.map Pass.Plan.pass)).result s).2.strategy = s.strategy := by
  induction plans generalizing s with
  | nil => rfl
  | cons plan rest ih =>
    have hfirst : (plan.pass.perform.result s).2.strategy = s.strategy := Pass.strategy_perform (plan.strategy_run s)
    rw [List.map_cons, result_performAll_cons]
    rcases hstep : plan.pass.perform.result s with ⟨fault | _, t⟩
    · rw [hstep] at hfirst
      exact hfirst
    · rw [hstep] at hfirst
      exact (ih t).trans hfirst

/-- **The override never leaks.** Take a pipeline of passes that are put together from the compiler's own and from
overrides, nested to any depth, with any pass at all innermost. From any state, whether the run ends or stops anywhere,
the strategy in force at the end is the one at the beginning. Each wrapped pass runs under the strategy of its wrapper:
a check for it at the start of each makes no difference, not even to the log. And an override has the outcome of the
pass it wraps, and leaves everything but the strategy as that pass left it. -/
theorem pipeline_keeps_strategy (name : String) (plans : List Pass.Plan) (s : State) :
    ((Pipeline.mk name (plans.map Pass.Plan.pass)).run.result s).2.strategy = s.strategy ∧
    (Pipeline.mk name (plans.map Pass.Plan.checked)).run s = (Pipeline.mk name (plans.map Pass.Plan.pass)).run s ∧
    ∀ strategy inner t,
      ((Pass.under strategy inner).run.result t).1 = (inner.run.result { t with strategy }).1 ∧
      ((Pass.under strategy inner).run.result t).2 =
        { (inner.run.result { t with strategy }).2 with strategy := t.strategy } := by
  refine ⟨?_, ?_, ?_⟩
  · rw [result_run]
    exact strategy_performAll plans s
  · rw [funext Pass.Plan.checked_eq_pass]
  · intro strategy inner t
    rw [Pass.result_under]
    exact ⟨rfl, rfl⟩

end Pipeline

end Graft
