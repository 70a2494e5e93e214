/-
Binary operators on 64-bit words.

Addition, subtraction and multiplication wrap around. A quotient truncates toward zero and a remainder takes the sign of
the dividend; both are undefined when the divisor is zero and when the quotient leaves the range of words, which happens
for the least word divided by -1 alone.
-/

namespace Graft

inductive Operator where
  | add
  | sub
  | mul
  | div
  | rem
deriving DecidableEq

namespace Operator

/-- whether `a` divided by `b` is a word -/
def HasQuotient (a b : Int64) : Prop := b ≠ 0 ∧ ¬ (a = Int64.minValue ∧ b = -1)

instance (a b : Int64) : Decidable (HasQuotient a b) := by unfold HasQuotient; infer_instance

/-- the value of `a op b`, if it has one -/
def apply (op : Operator) (a b : Int64) : Option Int64 :=
  match op with
  | .add => some (a + b)
  | .sub => some (a - b)
  | .mul => some (a * b)
  | .div => if HasQuotient a b then some (a / b) else none
  | .rem => if HasQuotient a b then some (a % b) else none

def name : Operator → String
  | .add => "add"
  | .sub => "sub"
  | .mul => "mul"
  | .div => "div"
  | .rem => "rem"

end Operator

end Graft
