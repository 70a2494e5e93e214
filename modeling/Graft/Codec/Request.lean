/-
JSON forms of what a compilation request consists of: routines, metadata and settings.
-/
import Graft.Codec.Code
import Graft.Metadata
import Graft.Settings

namespace Graft

/-! ## Routines -/

def Signature.toJson (s : Signature) : Json := .record [("args", .texts s.params)]

def Signature.ofJson? (j : Json) : Option Signature := do
  let [params?] ← j.fields? ["args"] | none
  let params ← (← params?).list? Json.text?
  ofList? params

def Routine.toJson (f : Routine) : Json :=
  .record
    [("name", .text f.name), ("qualified_name", .text f.qualifiedName), ("signature", f.signature.toJson),
     ("bytecode", .arr (f.body.map StackOp.toJson))]

/-- a missing qualified name is empty -/
def Routine.ofJson? (j : Json) : Option Routine := do
  let [name?, qualified?, signature?, body?] ← j.fields? ["name", "qualified_name", "signature", "bytecode"] | none
  let name ← (← name?).text?
  let qualifiedName ← (qualified?.getD (Json.text "")).text?
  let signature ← Signature.ofJson? (← signature?)
  let body ← (← body?).list? StackOp.ofJson?
  return { name, qualifiedName, signature, body }

/-- the routine that a text describes -/
def Routine.parse? (s : String) : Option Routine := do
  let j ← Json.parse? s
  ofJson? j

/-! ## Metadata -/

def Address.toJson (a : Address) : Json := .word a.val

def Address.ofJson? (j : Json) : Option Address := j.word64?.map Address.mk

def Artifact.toJson (a : Artifact) : Json :=
  .record [("function_pointer", a.address.toJson), ("symbol_name", .text a.symbol)]

def Artifact.ofJson? (j : Json) : Option Artifact := do
  let [address?, symbol?] ← j.fields? ["function_pointer", "symbol_name"] | none
  let address ← Address.ofJson? (← address?)
  let symbol ← (← symbol?).text?
  return ⟨address, symbol⟩

def Metadata.Value.toJson : Metadata.Value → Json
  | .pointer a => .alternative "Pointer" a.toJson
  | .str s => .alternative "Str" (.text s)
  | .int v => .alternative "Int" (.int64 v)
  | .bool b => .alternative "Bool" (.bool b)

def Metadata.Value.ofJson? (j : Json) : Option Metadata.Value := do
  match ← j.alternative? with
  | ("Pointer", some v) => (Address.ofJson? v).map .pointer
  | ("Str", some v) => v.text?.map .str
  | ("Int", some v) => v.int64?.map .int
  | ("Bool", some v) => v.bool?.map .bool
  | _ => none

def Metadata.toJson (m : Metadata) : Json := .record [("entries", .ofMap Metadata.Value.toJson m)]

def Metadata.ofJson? (j : Json) : Option Metadata := do
  let [entries?] ← j.fields? ["entries"] | none
  (← entries?).map? Metadata.Value.ofJson?

/-! ## Settings -/

def Settings.toJson (s : Settings) : Json :=
  .record [("use_mlir", .bool s.adoptArtifacts), ("no_compile", .bool s.lowerOnly)]

def Settings.ofJson? (j : Json) : Option Settings := do
  let [adopt?, only?] ← j.fields? ["use_mlir", "no_compile"] | none
  let adoptArtifacts ← (← adopt?).bool?
  let lowerOnly ← (← only?).bool?
  return { adoptArtifacts, lowerOnly }

end Graft
