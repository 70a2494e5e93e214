/-
Addresses of native code. The null address is no function.
-/

namespace Graft

structure Address where
  val : UInt64
deriving DecidableEq

namespace Address

def null : Address := ⟨0⟩

def isNull (a : Address) : Bool := a.val == 0

/-- hexadecimal, lower case, without padding -/
def text (a : Address) : String := "0x" ++ String.ofList (Nat.toDigits 16 a.val.toNat)

end Address

end Graft
