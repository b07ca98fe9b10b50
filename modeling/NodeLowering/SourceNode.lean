import NodeLowering.Onnx.Message
import NodeLowering.TensorFlow.Message

/-! Nodes of the frameworks that models come from. -/
namespace NodeLowering

inductive Framework where
  | tensorflow
  | onnxRuntime
  | other (id : String)
  deriving DecidableEq

namespace Framework

def ofId (id : String) : Framework :=
  if id = "tensorflow" then tensorflow
  else if id = "onnxruntime" then onnxRuntime
  else other id

def id : Framework → String
  | tensorflow => "tensorflow"
  | onnxRuntime => "onnxruntime"
  | other id => id

end Framework

/-- A node, or the framework of a node of which nothing else can be read. -/
inductive SourceNode where
  | tensorflow (node : TensorFlow.NodeDef)
  | onnx (node : Onnx.Node)
  | unsupported (framework : Framework)

def SourceNode.framework : SourceNode → Framework
  | tensorflow _ => .tensorflow
  | onnx _ => .onnxRuntime
  | unsupported framework => framework

end NodeLowering
