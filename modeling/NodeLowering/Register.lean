import NodeLowering.Extraction.Softmax

/-! The register of extractors by operator type, and the operators that it makes of nodes. -/
namespace NodeLowering

inductive Extractor where
  | softmax
  deriving DecidableEq

def Extractor.run : Extractor → SourceNode → Extraction Unit
  | softmax => Softmax.extract

/-- Why a node gives no operator, or an operator no attributes. -/
inductive LoweringError where
  | notRegistered (opType : String)
  | extraction (operator : String) (cause : ExtractionError)
  | noFrontend (framework : Framework)
  | unnamed (opType : String)
  deriving DecidableEq

def LoweringError.message : LoweringError → String
  | notRegistered opType => "Operator type " ++ opType ++ " is not registered"
  | extraction operator cause => "Extracting attributes of " ++ operator ++ ": " ++ cause.message
  | noFrontend framework => "No frontend for " ++ framework.id ++ " nodes"
  | unnamed opType => opType ++ " node has neither a name nor an output"

/-- What a node tells about its operator. -/
structure Signature where
  name : String
  opType : String
  outputs : List String
  deriving DecidableEq

/-- A TensorFlow node is named and has one output. An ONNX node without a name is known by its first
output, and its outputs without a name are left out. -/
def SourceNode.signature : SourceNode → Except LoweringError Signature
  | tensorflow node => .ok ⟨node.name, node.op, [node.name ++ ":0"]⟩
  | onnx node =>
      let name := if node.name ≠ "" then node.name else node.outputs.headD ""
      if name = "" then .error (.unnamed node.opType)
      else .ok ⟨name, node.opType, node.outputs.filter (· ≠ "")⟩
  | unsupported framework => .error (.noFrontend framework)

abbrev Register := KeyMap Extractor

namespace Register
open Working

/-- The register of all operator types that can be extracted. -/
def full : Register := .ofList [("Softmax", .softmax), ("SoftmaxGraph", .softmax)]

def text (register : Register) : String := "OpRegister(" ++ Text.quotedList register.keys ++ ")"

/-- Extracts the attributes of the operator at work from its node. -/
def extract (register : Register) (node : SourceNode) : Working LoweringError Unit := do
  let op ← operator
  let some extractor := register.find? op.opType | throw (.notRegistered op.opType)
  tell (.extracting op.title node.framework)
  mapError (.extraction op.title) (extractor.run node)
  let op ← operator
  op.attrs.toList.forM fun (name, value) => tell (.extracted op.title name value)

/-- Makes the operator of a node, whose inputs are given in the node's order. -/
def lower (register : Register) (node : SourceNode) (inputs : List Handle) :
    Working LoweringError Unit := do
  let signature ← ofExcept node.signature
  let outputs ← signature.outputs.mapM fun output =>
    fresh { name := output, sourceOps := [signature.name] }
  let op : Operator Handle :=
    { name := signature.name, opType := signature.opType, inputs, outputs }
  setOperator op
  tell (.created op.title (op.contents.inputs.map Tensor.text))
  register.extract node

end Register
end NodeLowering
