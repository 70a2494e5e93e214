/-
Settings: two switches, read from environment variables and overridden by the command line.

A variable that is unset leaves its switch at the default. The values are words for yes and no in any case, with white
space around them; the empty word is no.
-/
import Graft.Error
import Graft.Text.Blank

namespace Graft

structure Settings where
  /-- adopt native artifacts instead of lowering stack code -/
  adoptArtifacts : Bool := true
  /-- lower only: resolve no entry -/
  lowerOnly : Bool := false
deriving DecidableEq

namespace Settings

def adoptVariable : String := "NLC_USE_MLIR"

def lowerOnlyVariable : String := "NLC_NO_COMPILE"

def yesWords : List String := ["1", "true", "yes", "on"]

def noWords : List String := ["0", "false", "no", "off", ""]

/-- the switch position that the value of a variable stands for -/
def readFlag (name value : String) : Except Error Bool :=
  let word := Text.lower (Text.trim value)
  if word ∈ yesWords then .ok true
  else if word ∈ noWords then .ok false
  else .error (.config (.notABoolean word name))

/-- the position of one switch -/
def readSwitch (env : String → Option String) (name : String) (unset : Bool) : Except Error Bool :=
  match env name with
  | some value => readFlag name value
  | none => .ok unset

/-- the settings that an environment gives; the first variable that cannot be read decides the error -/
def ofEnvironment (env : String → Option String) : Except Error Settings := do
  let adopt ← readSwitch env adoptVariable true
  let only ← readSwitch env lowerOnlyVariable false
  return ⟨adopt, only⟩

end Settings

end Graft
