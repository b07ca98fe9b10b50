import NodeLowering.Extraction.Basic

/-! The axis of a softmax. TensorFlow gives it as a constant second input, ONNX as the first
attribute. The operator gets it as an attribute unless it is the last axis, and keeps a TensorFlow
node's first input only, as a tensor of its own. -/
namespace NodeLowering.Softmax
open Working

/-- Stands for the last axis, and is meant where no axis is given. -/
def defaultAxis : Int64 := -1

def constAxis? (inputs : List Tensor) : Option Int64 := do
  let axis ← inputs[1]?
  let content ← axis.content
  content.first?

/-- The axis in the second input, if there is one. -/
def axisInput : Extraction Int64 := do
  let op ← operator
  match constAxis? op.contents.inputs with
  | some axis => return axis
  | none =>
      tell (.noConstantAxis op.title defaultAxis)
      return defaultAxis

/-- Leaves a copy of the first input as the only one. -/
def detachInputs : Extraction Unit := do
  let op ← operator
  match op.inputs with
  | data :: _ => setInputs [← fresh data.tensor]
  | [] => tell (.noDataInput op.title)

def writeAxis (axis : Int64) : Extraction Unit := do
  tell (.axis (← operator).title axis)
  if axis ≠ defaultAxis then setAttr "axis" (.int axis)

def extract : SourceNode → Extraction Unit
  | .tensorflow _ => do
      let axis ← axisInput
      detachInputs
      writeAxis axis
  | .onnx node => do
      let op ← operator
      let axis ← ofExcept <|
        (node.firstAttribute >>= Onnx.Attribute.toInt).mapError (.axis op.title)
      writeAxis axis
  | .unsupported framework => do
      tell (.nothingToExtract (← operator).title framework)

end NodeLowering.Softmax
