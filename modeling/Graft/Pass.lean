/-
Passes, and pipelines of them.

A pass is an action on the state of a compilation that says whether it changed the state. A pipeline runs its passes in
order and stops at the first one that stops; a pass that is declared to analyse only must not report a change.
-/
import Graft.State

namespace Graft

/-- what a pass declares about itself -/
structure Pass.Info where
  name : String
  /-- the pass alters the flow of the function -/
  mutatesFlow : Bool
  /-- the pass only inspects the state -/
  analysisOnly : Bool
deriving DecidableEq

def Pass.Info.analysis (name : String) : Pass.Info := ⟨name, false, true⟩

def Pass.Info.transform (name : String) (mutatesFlow : Bool) : Pass.Info := ⟨name, mutatesFlow, false⟩

structure Pass where
  info : Pass.Info
  run : Action Fault State Bool

/-- one pass of a pipeline, with its log -/
def Pass.perform (p : Pass) : Action Fault State Unit := do
  Action.note .debug s!"Running pass: {p.info.name}"
  match ← p.run.attempt with
  | .error (.error e) =>
    Action.note .debug s!"Pass '{p.info.name}' failed: {e.message}"
    Action.stop (.error e)
  | .error .crash => Action.stop .crash
  | .ok changed =>
    if changed && p.info.analysisOnly then Action.stop (.error (.internal (.analysisMutated p.info.name)))
    else if changed then Action.note .debug s!"Pass '{p.info.name}' modified the state"
    else Action.note .trace s!"Pass '{p.info.name}' made no changes"

structure Pipeline where
  name : String
  passes : List Pass

namespace Pipeline

def passNames (p : Pipeline) : List String := p.passes.map (·.info.name)

/-- passes in order, up to the first that stops -/
def performAll : List Pass → Action Fault State Unit
  | [] => return ()
  | p :: rest => do
    p.perform
    performAll rest

def run (p : Pipeline) : Action Fault State Unit := do
  let s ← Action.read
  Action.note .info s!"Pipeline '{p.name}': compiling '{s.routine.shownName}' ({p.passes.length} passes)"
  performAll p.passes

end Pipeline

end Graft
