import NodeLowering.KeyMap
import NodeLowering.Onnx.Attribute
import NodeLowering.Onnx.Encoding
import NodeLowering.Operator
import NodeLowering.Register
import NodeLowering.Session
import NodeLowering.SourceNode
import NodeLowering.Tensor.Basic
import NodeLowering.TensorFlow.Attribute
import NodeLowering.TensorFlow.Encoding
import NodeLowering.Wire.Format
import NodeLowering.Proofs.Wire.Faithful
import NodeLowering.Proofs.Wire.Messages
import NodeLowering.Proofs.Wire.Merge
import NodeLowering.Proofs.Tensor.RowMajor
import NodeLowering.Proofs.TensorFlow.Constant
import NodeLowering.Proofs.Extraction.Effect
import NodeLowering.Proofs.ConstantAxis
import NodeLowering.Proofs.Extraction.Runs
import NodeLowering.Proofs.Session.Owned
import NodeLowering.Proofs.Session.Erasure
import NodeLowering.Proofs.Extraction.Handles
import NodeLowering.Proofs.Session.Renaming
import NodeLowering.Proofs.Session.InPlace
import NodeLowering.Proofs.Session.Sharing
import NodeLowering.Proofs.Bytes.Spelling
import NodeLowering.Proofs.Tensor.Equality
import NodeLowering.Proofs.TensorFlow.LittleEndian
import NodeLowering.Proofs.TensorFlow.Elements
import NodeLowering.Proofs.TensorFlow.Outcome
import NodeLowering.Proofs.Wire.Spelling
import NodeLowering.Proofs.Wire.Grammar
import NodeLowering.Proofs.Wire.Streaming
import NodeLowering.Proofs.Wire.MessageStreams
import NodeLowering.Proofs.Wire.Accepted
import NodeLowering.Proofs.Wire.Order
import NodeLowering.Proofs.TensorFlow.BytesAndLists
import NodeLowering.Proofs.Extraction.Refusal
import NodeLowering.Proofs.Extraction.Lowering
import NodeLowering.Proofs.Session.Outcome
import NodeLowering.Proofs.Session.Severance
import NodeLowering.Proofs.Tensor.Details
import NodeLowering.Proofs.TensorFlow.Folding
import NodeLowering.Proofs.Wire.Numbers
import NodeLowering.Proofs.Wire.Parts
import NodeLowering.Proofs.Tensor.PartialEquivalence
import NodeLowering.Proofs.Extraction.Congruence
import NodeLowering.Proofs.Register.Listing
import NodeLowering.Proofs.Wire.Framing
import NodeLowering.Proofs.Wire.Lengths
