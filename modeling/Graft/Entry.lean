/-
Entries: what a symbol resolves to, and what a call of it does.

A call first compares the number of arguments. A lowered entry then runs its code. A native entry refuses the null
address and more arguments than a native call can pass, and jumps; if no kernel of that arity is at the address, that is
a crash.
-/
import Graft.Body
import Graft.Kernel

namespace Graft

inductive Entry where
  /-- a body lowered here -/
  | lowered (body : Body)
  /-- native code at an address -/
  | native (symbol : String) (address : Address) (arity : UInt64)
deriving DecidableEq

namespace Entry

def symbol : Entry → String
  | .lowered b => b.symbol
  | .native s _ _ => s

def arity : Entry → UInt64
  | .lowered b => b.arity
  | .native _ _ n => n

def isNative : Entry → Bool
  | .lowered _ => false
  | .native .. => true

/-- how the code came to be, in words -/
def origin (e : Entry) : String := if e.isNative then "native artifact" else "lowered bytecode"

/-- jump to an address with the given arguments -/
def jump (image : Image) (symbol : String) (address : Address) (args : List Int64) : Except Fault Int64 :=
  if address.isNull then .error (.error (.execution (.nullAddress symbol)))
  else if args.length > maxNativeArity then .error (.error (.execution (.tooManyArguments symbol)))
  else
    match (image address).bind (·.value? args) with
    | some v => .ok v
    | none => .error .crash

def call (image : Image) (e : Entry) (args : List Int64) : Traced (Except Fault Int64) :=
  if args.length ≠ e.arity.toNat then
    pure (.error (.error (.execution (.argumentCount e.symbol e.arity args.length))))
  else
    match e with
    | .lowered b => do
      let r ← b.run args
      return r.mapError (.error ∘ .execution)
    | .native symbol address _ => pure (jump image symbol address args)

end Entry

end Graft
