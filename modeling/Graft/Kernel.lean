/-
Native code behind addresses.

A kernel is a native function of up to four words. An image says which kernel, if any, lies at an address: calling
through an address means calling what the image has there.
-/
import Graft.Address

namespace Graft

inductive Kernel where
  | nullary (f : Int64)
  | unary (f : Int64 → Int64)
  | binary (f : Int64 → Int64 → Int64)
  | ternary (f : Int64 → Int64 → Int64 → Int64)
  | quaternary (f : Int64 → Int64 → Int64 → Int64 → Int64)

namespace Kernel

def arity : Kernel → Nat
  | .nullary _ => 0
  | .unary _ => 1
  | .binary _ => 2
  | .ternary _ => 3
  | .quaternary _ => 4

/-- the value for arguments that are as many as the kernel takes -/
def value? : Kernel → List Int64 → Option Int64
  | .nullary f, [] => some f
  | .unary f, [a] => some (f a)
  | .binary f, [a, b] => some (f a b)
  | .ternary f, [a, b, c] => some (f a b c)
  | .quaternary f, [a, b, c, d] => some (f a b c d)
  | _, _ => none

/-- a kernel has a value exactly for as many arguments as it takes -/
theorem isSome_value?_iff (k : Kernel) (args : List Int64) : (k.value? args).isSome ↔ args.length = k.arity := by
  rcases k with f | f | f | f | f <;> rcases args with _ | ⟨a, _ | ⟨b, _ | ⟨c, _ | ⟨d, _ | ⟨e, rest⟩⟩⟩⟩⟩ <;>
    simp [value?, arity]

end Kernel

/-- which kernel lies at an address -/
abbrev Image := Address → Option Kernel

/-- the image with the kernels of a list at their addresses, the first of a repeated address -/
def Image.ofList (kernels : List (Address × Kernel)) : Image := fun address => kernels.lookup address

end Graft
