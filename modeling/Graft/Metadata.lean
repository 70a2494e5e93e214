/-
Metadata of one compilation request: a map from keys to values.

An artifact (the address of a native body and the symbol it goes by) travels in the metadata under two keys. Its removal
checks both keys before it erases either.
-/
import Graft.Action
import Graft.NameMap
import Graft.Error

namespace Graft

/-- a native body and the symbol it goes by -/
structure Artifact where
  address : Address
  symbol : String
deriving DecidableEq

abbrev Metadata := NameMap Metadata.Value

namespace Metadata

/-- key of the artifact's address -/
def pointerKey : String := "native_func_ptr"

/-- key of the artifact's symbol -/
def symbolKey : String := "native_func_name"

def insertArtifact (m : Metadata) (a : Artifact) : Metadata :=
  (m.insert pointerKey (.pointer a.address)).insert symbolKey (.str a.symbol)

/-- whether both keys are there, whatever they hold -/
def hasArtifact (m : Metadata) : Bool := m.contains pointerKey && m.contains symbolKey

/-- the address of the artifact meant for `function` -/
def artifactAddress (m : Metadata) (function : String) : Except Error Address :=
  match m.find? pointerKey with
  | some (.pointer a) => .ok a
  | some held => .error (.internal (.notAPointer pointerKey held))
  | none => .error (.missingArtifact function pointerKey)

/-- the symbol of the artifact meant for `function` -/
def artifactSymbol (m : Metadata) (function : String) : Except Error String :=
  match m.find? symbolKey with
  | some (.str s) => .ok s
  | some held => .error (.internal (.notAString symbolKey held))
  | none => .error (.missingArtifact function symbolKey)

/-- take the artifact meant for `function` out of the metadata -/
def removeArtifact (function : String) : Action Error Metadata Artifact := do
  let m ← Action.read
  let address ← Action.ofExcept (artifactAddress m function)
  let symbol ← Action.ofExcept (artifactSymbol m function)
  Action.update fun m => m.erase pointerKey
  Action.update fun m => m.erase symbolKey
  return ⟨address, symbol⟩

/-- what a removal comes to: the artifact and the metadata without it, or why there is none -/
def takeArtifact (m : Metadata) (function : String) : Except Error (Artifact × Metadata) :=
  match (removeArtifact function).result m with
  | (.ok a, rest) => .ok (a, rest)
  | (.error e, _) => .error e

end Metadata

end Graft
