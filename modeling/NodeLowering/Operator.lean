import NodeLowering.KeyMap
import NodeLowering.Tensor.Basic

/-! Operators of the compiled graph. They hold tensors through handles, so that an operator can
share a tensor with the graph it comes from. -/
namespace NodeLowering

inductive Attr where
  | int (value : Int64)
  deriving DecidableEq

def Attr.text : Attr → String
  | int value => toString value.toInt

/-- A way to a tensor. Handles with the same `id` are shared: they have been copied from each
other, and so lead to the same tensor. -/
structure Handle where
  id : Nat
  tensor : Tensor

/-- An operator over tensors that are held as `τ`. -/
structure Operator (τ : Type) where
  name : String := ""
  opType : String := ""
  inputs : List τ := []
  outputs : List τ := []
  attrs : KeyMap Attr := .empty

namespace Operator
variable {τ υ : Type}

def title (op : Operator τ) : String := op.name ++ " (" ++ op.opType ++ ")"

def map (f : τ → υ) (op : Operator τ) : Operator υ :=
  { op with inputs := op.inputs.map f, outputs := op.outputs.map f }

/-- The operator with its tensors in place of the ways to them. -/
def contents (op : Operator Handle) : Operator Tensor := op.map (·.tensor)

def equalTensors : List Tensor → List Tensor → Bool
  | [], [] => true
  | t :: ts, u :: us => t.equal u && equalTensors ts us
  | _, _ => false

/-- Equality of all parts, tensors being compared by `Tensor.equal`. -/
def equal (op other : Operator Tensor) : Bool :=
  op.name == other.name && op.opType == other.opType &&
    equalTensors op.inputs other.inputs && equalTensors op.outputs other.outputs &&
    decide (op.attrs = other.attrs)

end Operator
end NodeLowering
