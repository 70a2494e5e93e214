/-
Routines: functions as the front end hands them over, with their names, parameters and stack code.

A routine has two symbols. `symbol` names its body and carries the number of its parameters; `environmentSymbol` names
the environment object that is emitted beside the body. In both the points of the shown name become `$`.
-/
import Graft.StackOp

namespace Graft

/-- parameters by name; every value is a word -/
structure Signature where
  params : List String
  /-- arities are 64-bit numbers -/
  bounded : params.length < UInt64.size := by decide
deriving DecidableEq

namespace Signature

def arity (s : Signature) : UInt64 := .ofNat s.params.length

/-- the arity counts the parameters: it does not wrap -/
theorem toNat_arity (s : Signature) : s.arity.toNat = s.params.length := by
  simpa [arity] using Nat.mod_eq_of_lt s.bounded

def ofList? (params : List String) : Option Signature :=
  if h : params.length < UInt64.size then some ⟨params, h⟩ else none

end Signature

structure Routine where
  name : String
  /-- qualified name, empty when there is none -/
  qualifiedName : String
  signature : Signature
  body : List StackOp
deriving DecidableEq

namespace Routine

/-- the qualified name, or the short one when that is empty -/
def shownName (f : Routine) : String := if f.qualifiedName = "" then f.name else f.qualifiedName

def arity (f : Routine) : UInt64 := f.signature.arity

/-- the shown name as part of a symbol -/
def linkName (f : Routine) : String := f.shownName.map fun c => if c = '.' then '$' else c

/-- symbol of the body -/
def symbol (f : Routine) : String := "_nlc_" ++ f.linkName ++ "_" ++ toString f.arity.toNat

/-- symbol of the environment object -/
def environmentSymbol (f : Routine) : String := "_nlc_env_" ++ f.linkName

/-- the routine with its short name as qualified name, if it has none -/
def qualified (f : Routine) : Routine := if f.qualifiedName = "" then { f with qualifiedName := f.name } else f

end Routine

end Graft
