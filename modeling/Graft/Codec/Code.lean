/-
JSON forms of code: operators, instructions, bodies, modules and libraries.
-/
import Graft.Codec.Basic
import Graft.Library

namespace Graft

/-! ## Operators and instructions -/

def Operator.toJson : Operator → Json
  | .add => .text "Add"
  | .sub => .text "Sub"
  | .mul => .text "Mul"
  | .div => .text "Div"
  | .rem => .text "Rem"

def Operator.ofName? : String → Option Operator
  | "Add" => some .add
  | "Sub" => some .sub
  | "Mul" => some .mul
  | "Div" => some .div
  | "Rem" => some .rem
  | _ => none

def Operator.ofJson? (j : Json) : Option Operator := do
  let (name, data) ← j.alternative?
  if Json.isBare data then ofName? name else none

def StackOp.toJson : StackOp → Json
  | .load v => .alternative "LoadConst" (.int64 v)
  | .arg i => .alternative "LoadArg" (.nat i.toNat)
  | .binary op => .alternative "Binary" op.toJson
  | .neg => .text "Neg"
  | .ret => .text "Return"

def StackOp.ofJson? (j : Json) : Option StackOp := do
  match ← j.alternative? with
  | ("LoadConst", some v) => v.int64?.map .load
  | ("LoadArg", some v) => v.word16?.map .arg
  | ("Binary", some v) => (Operator.ofJson? v).map .binary
  | ("Neg", data) => if Json.isBare data then some .neg else none
  | ("Return", data) => if Json.isBare data then some .ret else none
  | _ => none

def Instr.toJson : Instr → Json
  | .const d v => .alternative "Const" (.arr [.nat d.toNat, .int64 v])
  | .arg d i => .alternative "Arg" (.arr [.nat d.toNat, .nat i.toNat])
  | .binary op d a b => .alternative "Binary" (.arr [op.toJson, .nat d.toNat, .nat a.toNat, .nat b.toNat])
  | .neg d a => .alternative "Neg" (.arr [.nat d.toNat, .nat a.toNat])
  | .ret a => .alternative "Ret" (.nat a.toNat)

def Instr.ofJson? (j : Json) : Option Instr := do
  match ← j.alternative? with
  | ("Const", some (.arr [d, v])) => return .const (← d.word32?) (← v.int64?)
  | ("Arg", some (.arr [d, i])) => return .arg (← d.word32?) (← i.word16?)
  | ("Binary", some (.arr [op, d, a, b])) =>
    return .binary (← Operator.ofJson? op) (← d.word32?) (← a.word32?) (← b.word32?)
  | ("Neg", some (.arr [d, a])) => return .neg (← d.word32?) (← a.word32?)
  | ("Ret", some a) => return .ret (← a.word32?)
  | _ => none

/-! ## Bodies, modules, libraries -/

def Body.toJson (b : Body) : Json :=
  .record [("symbol", .text b.symbol), ("arity", .word b.arity), ("code", .arr (b.code.map Instr.toJson))]

def Body.ofJson? (j : Json) : Option Body := do
  let [symbol?, arity?, code?] ← j.fields? ["symbol", "arity", "code"] | none
  let symbol ← (← symbol?).text?
  let arity ← (← arity?).word64?
  let code ← (← code?).list? Instr.ofJson?
  return ⟨symbol, arity, code⟩

def Environment.toJson (e : Environment) : Json :=
  .record [("symbol", .text e.symbol), ("function", .text e.function), ("arity", .word e.arity)]

def Environment.ofJson? (j : Json) : Option Environment := do
  let [symbol?, function?, arity?] ← j.fields? ["symbol", "function", "arity"] | none
  let symbol ← (← symbol?).text?
  let function ← (← function?).text?
  let arity ← (← arity?).word64?
  return ⟨symbol, function, arity⟩

def Module.toJson (m : Module) : Json :=
  .record
    [("name", .text m.name), ("declared", .texts m.declared.names), ("functions", .arr (m.functions.map Body.toJson)),
     ("environments", .arr (m.environments.map Environment.toJson))]

/-- repeated declarations count once -/
def Module.ofJson? (j : Json) : Option Module := do
  let [name?, declared?, functions?, environments?] ←
    j.fields? ["name", "declared", "functions", "environments"] | none
  let name ← (← name?).text?
  let declared ← (← declared?).list? Json.text?
  let functions ← (← functions?).list? Body.ofJson?
  let environments ← (← environments?).list? Environment.ofJson?
  return ⟨name, NameSet.ofNames declared, functions, environments⟩

def Library.toJson (l : Library) : Json :=
  .record
    [("name", .text l.name), ("modules", .arr (l.modules.map Module.toJson)), ("finalized", .bool l.finalized),
     ("verify_declared_symbols", .bool l.verifies)]

def Library.ofJson? (j : Json) : Option Library := do
  let [name?, modules?, finalized?, verifies?] ←
    j.fields? ["name", "modules", "finalized", "verify_declared_symbols"] | none
  let name ← (← name?).text?
  let modules ← (← modules?).list? Module.ofJson?
  let finalized ← (← finalized?).bool?
  let verifies ← (← verifies?).bool?
  return ⟨name, modules, finalized, verifies⟩

/-- the library as people read it -/
def Library.dump (l : Library) : String := l.toJson.indented

end Graft
