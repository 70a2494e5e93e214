/-
Lowered bodies, and how they run.

A run keeps the values of the temporaries set so far and goes through the code once. `Instr.step` is one instruction;
`Body.exec` ends at the first return or at the first instruction that has no step, and says which instructions it did
not reach.
-/
import Graft.Error
import Graft.Trace

namespace Graft

/-- three-address code under a symbol -/
structure Body where
  symbol : String
  arity : UInt64
  code : List Instr
deriving DecidableEq

/-- temporaries that are set, with their values; the newest first -/
abbrev Temps := List (Temp × Int64)

/-- what an instruction does -/
inductive Step where
  | set (dest : Temp) (value : Int64)
  | done (value : Int64)

/-- the value of a temporary in the body `symbol` -/
def Temps.read (temps : Temps) (symbol : String) (t : Temp) : Except ExecutionFault Int64 :=
  match temps.lookup t with
  | some v => .ok v
  | none => .error (.undefinedTemp symbol t)

/-- one instruction of the body `symbol` -/
def Instr.step (symbol : String) (args : List Int64) (temps : Temps) : Instr → Except ExecutionFault Step
  | .const d v => .ok (.set d v)
  | .arg d i =>
    match args[i.toNat]? with
    | some v => .ok (.set d v)
    | none => .error (.noArgument i)
  | .binary op d a b => do
    let x ← temps.read symbol a
    let y ← temps.read symbol b
    match op.apply x y with
    | some v => .ok (.set d v)
    | none => .error (.undefinedResult op symbol)
  | .neg d a => do
    let x ← temps.read symbol a
    return .set d (-x)
  | .ret a => do
    let x ← temps.read symbol a
    return .done x

namespace Body

/-- the outcome of running `code`, and the part of it that was not reached -/
def exec (symbol : String) (args : List Int64) : Temps → List Instr → Except ExecutionFault Int64 × List Instr
  | _, [] => (.error (.noReturn symbol), [])
  | temps, i :: rest =>
    match i.step symbol args temps with
    | .error e => (.error e, rest)
    | .ok (.done v) => (.ok v, rest)
    | .ok (.set d v) => exec symbol args ((d, v) :: temps) rest

/-- the value of the body for arguments that are as many as it takes -/
def value (b : Body) (args : List Int64) : Except ExecutionFault Int64 := (exec b.symbol args [] b.code).1

/-- the instructions that are run for the arguments -/
def reached (b : Body) (args : List Int64) : List Instr :=
  b.code.take (b.code.length - (exec b.symbol args [] b.code).2.length)

/-- the run with its log: one line for each instruction -/
def run (b : Body) (args : List Int64) : Traced (Except ExecutionFault Int64) :=
  ⟨b.value args, (b.reached args).map fun i => ⟨.trace, "  exec " ++ i.text⟩⟩

end Body

end Graft
