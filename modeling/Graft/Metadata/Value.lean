/-
Values of request metadata, and their text in diagnostics.
-/
import Graft.Address
import Graft.Text.Quoted

namespace Graft

inductive Metadata.Value where
  | pointer (address : Address)
  | str (text : String)
  | int (value : Int64)
  | bool (value : Bool)
deriving DecidableEq

/-- the value as diagnostics show it: its kind, and the content in parentheses -/
def Metadata.Value.text : Metadata.Value → String
  | .pointer a => s!"Pointer({a.val.toNat})"
  | .str s => "Str(" ++ Text.quoted s ++ ")"
  | .int v => s!"Int({v.toInt})"
  | .bool b => if b then "Bool(true)" else "Bool(false)"

end Graft
