import NodeLowering.Proofs.Wire.Messages
import NodeLowering.Proofs.Wire.Streaming

/-! The messages that nodes are made of, read through. -/
namespace NodeLowering
open Wire Wire.Format

namespace TensorFlow

def Dim.stream {levels : Nat} : Stream Dim.format levels :=
  .structured <|
    .both (.omitting (.scalar Scalar.int64_plain.strict)) <|
    .omitting (.scalar Scalar.text_strict)

def TensorShape.stream {levels : Nat} : Stream TensorShape.format (levels + 1) :=
  .structured <|
    .both (.repeated (.message Dim.stream)) <|
    .omitting (.scalar Scalar.bool_plain.strict)

def TensorProto.stream {levels : Nat} : Stream TensorProto.format (levels + 2) :=
  .structured <|
    .both (.omitting (.scalar Scalar.int32_plain.strict)) <|
    .both (.optional (.message TensorShape.stream)) <|
    .both (.omitting (.scalar Scalar.int32_plain.strict)) <|
    .both (.omitting (.scalar Scalar.bytes_plain.strict)) <|
    .both (.packed Scalar.float_plain.strict) <|
    .both (.packed Scalar.double_plain.strict) <|
    .both (.packed Scalar.int32_plain.strict) <|
    .both (.repeated (.scalar Scalar.bytes_plain.strict)) <|
    .both (.packed Scalar.int64_plain.strict) <|
    .packed Scalar.bool_plain.strict

def ListValue.stream {levels : Nat} : Stream ListValue.format (levels + 3) :=
  .structured <|
    .both (.repeated (.scalar Scalar.bytes_plain.strict)) <|
    .both (.packed Scalar.int64_plain.strict) <|
    .both (.packed Scalar.float_plain.strict) <|
    .both (.packed Scalar.bool_plain.strict) <|
    .both (.packed Scalar.int32_plain.strict) <|
    .both (.repeated (.message TensorShape.stream)) <|
    .repeated (.message TensorProto.stream)

def AttrValue.stream {levels : Nat} : Stream AttrValue.format (levels + 4) :=
  .choiceCons (.alternative (.message ListValue.stream)) <|
  .choiceCons (.alternative (.scalar Scalar.bytes_plain.strict)) <|
  .choiceCons (.alternative (.scalar Scalar.int64_plain.strict)) <|
  .choiceCons (.alternative (.scalar Scalar.float_plain.strict)) <|
  .choiceCons (.alternative (.scalar Scalar.bool_plain.strict)) <|
  .choiceCons (.alternative (.scalar Scalar.int32_plain.strict)) <|
  .choiceCons (.alternative (.message TensorShape.stream)) <|
  .choiceCons (.alternative (.message TensorProto.stream)) <|
  .choiceCons (.alternative (.scalar Scalar.text_strict)) .choiceNil

def NodeDef.stream : Stream NodeDef.format 6 :=
  .structured <|
    .both (.omitting (.scalar Scalar.text_strict)) <|
    .both (.omitting (.scalar Scalar.text_strict)) <|
    .both (.repeated (.scalar Scalar.text_strict)) <|
    .both (.omitting (.scalar Scalar.text_strict)) <|
    .map AttrValue.stream

end TensorFlow

namespace Onnx

def Attribute.stream {levels : Nat} : Stream Attribute.format levels :=
  .structured <|
    .both (.omitting (.scalar Scalar.text_strict)) <|
    .both (.omitting (.scalar Scalar.float_plain.strict)) <|
    .both (.omitting (.scalar Scalar.int64_plain.strict)) <|
    .both (.omitting (.scalar Scalar.bytes_plain.strict)) <|
    .both (.packed Scalar.float_plain.strict) <|
    .both (.packed Scalar.int64_plain.strict) <|
    .both (.repeated (.scalar Scalar.bytes_plain.strict)) <|
    .both (.omitting (.scalar Scalar.text_strict)) <|
    .both (.omitting (.scalar Scalar.int32_plain.strict)) <|
    .omitting (.scalar Scalar.text_strict)

def Node.stream {levels : Nat} : Stream Node.format (levels + 1) :=
  .structured <|
    .both (.repeated (.scalar Scalar.text_strict)) <|
    .both (.repeated (.scalar Scalar.text_strict)) <|
    .both (.omitting (.scalar Scalar.text_strict)) <|
    .both (.omitting (.scalar Scalar.text_strict)) <|
    .both (.repeated (.message Attribute.stream)) <|
    .both (.omitting (.scalar Scalar.text_strict)) <|
    .omitting (.scalar Scalar.text_strict)

end Onnx

namespace MessageType

def stream : (type : MessageType) → Stream type.format 6
  | dim => TensorFlow.Dim.stream
  | tensorShape => TensorFlow.TensorShape.stream
  | tensorProto => TensorFlow.TensorProto.stream
  | listValue => TensorFlow.ListValue.stream
  | attrValue => TensorFlow.AttrValue.stream
  | nodeDef => TensorFlow.NodeDef.stream
  | onnxAttribute => Onnx.Attribute.stream
  | onnxNode => Onnx.Node.stream

/-- Merges a message into the one present by reading it through. -/
def updateThrough (type : MessageType) (present : type.Value) (bs : Bytes) : Option type.Value :=
  type.stream.merge maxDepth present bs

/-- Reading a message through comes to the same as cutting off its blocks before they are read. -/
theorem updateThrough_eq (type : MessageType) (present : type.Value) (bs : Bytes) :
    type.updateThrough present bs = type.format.update present bs :=
  type.stream.merge_eq (by decide) present bs

/-- The name of the dimension goes beyond the block that the dimension lies in. -/
example : tensorShape.updateThrough {} [0x12, 2, 0x12, 2, 0x61, 0x62] = none := by decide +kernel

end MessageType
end NodeLowering
