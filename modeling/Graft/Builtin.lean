/-
Kernels that come with the program, and the functions it demonstrates itself with.

The kernels stand for what an outside compiler would deliver: `Builtin.precompiled` offers them to functions of their
name and arity, and `Builtin.image` has them at their addresses.
-/
import Graft.Compiler

namespace Graft

/-- a kernel with its name and place -/
structure Builtin where
  name : String
  address : Address
  kernel : Kernel

namespace Builtin

def kernels : List Builtin :=
  [⟨"add", ⟨0x6f3b2d81a400⟩, .binary fun a b => a + b⟩,
   ⟨"sub", ⟨0x6f3b2d81a420⟩, .binary fun a b => a - b⟩,
   ⟨"mul", ⟨0x6f3b2d81a440⟩, .binary fun a b => a * b⟩,
   ⟨"square", ⟨0x6f3b2d81a460⟩, .unary fun a => a * a⟩,
   ⟨"madd", ⟨0x6f3b2d81a480⟩, .ternary fun a b c => a * b + c⟩]

/-- the given kernels at their addresses -/
def imageOf (kernels : List Builtin) : Image := Image.ofList (kernels.map fun k => (k.address, k.kernel))

def image : Image := imageOf kernels

def precompiled : Precompiled :=
  kernels.foldl (fun p k => p.register k.name k.address (.ofNat k.kernel.arity)) NameMap.empty

/-- functions with arguments to call them with; the last has no kernel -/
def demos : List (Routine × List Int64) :=
  [({ name := "madd", qualifiedName := "madd", signature := { params := ["a", "b", "c"] },
      body := [.arg 0, .arg 1, .binary .mul, .arg 2, .binary .add, .ret] }, [6, 7, 0]),
   ({ name := "square", qualifiedName := "square", signature := { params := ["x"] },
      body := [.arg 0, .arg 0, .binary .mul, .ret] }, [12]),
   ({ name := "negdiff", qualifiedName := "negdiff", signature := { params := ["a", "b"] },
      body := [.arg 0, .arg 1, .binary .sub, .neg, .ret] }, [3, 10])]

end Builtin

end Graft
