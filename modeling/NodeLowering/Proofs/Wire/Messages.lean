import NodeLowering.Onnx.Encoding
import NodeLowering.Proofs.Wire.Faithful
import NodeLowering.TensorFlow.Encoding

/-! The messages that nodes are made of, as one family. None of their formats loses anything, and
the attributes of a TensorFlow node may be written in any order. -/
namespace NodeLowering
open Wire Wire.Format

namespace TensorFlow

theorem Dim.format_faithful {levels : Nat} : Faithful Dim.format levels :=
  .structured <|
    .both (scalar_whole Scalar.int64_faithful).omitting <|
    (scalar_whole Scalar.text_faithful).omitting

theorem TensorShape.format_faithful {levels : Nat} :
    Faithful TensorShape.format (levels + 1) :=
  .structured <|
    .both (message_whole Dim.format_faithful).repeated <|
    (scalar_whole Scalar.bool_faithful).omitting

theorem TensorProto.format_faithful {levels : Nat} :
    Faithful TensorProto.format (levels + 2) :=
  .structured <|
    .both (scalar_whole Scalar.int32_faithful).omitting <|
    .both (message_whole TensorShape.format_faithful).optional <|
    .both (scalar_whole Scalar.int32_faithful).omitting <|
    .both (scalar_whole Scalar.bytes_faithful).omitting <|
    .both (packed_faithful Scalar.float_faithful) <|
    .both (packed_faithful Scalar.double_faithful) <|
    .both (packed_faithful Scalar.int32_faithful) <|
    .both (scalar_whole Scalar.bytes_faithful).repeated <|
    .both (packed_faithful Scalar.int64_faithful) <|
    packed_faithful Scalar.bool_faithful

theorem ListValue.format_faithful {levels : Nat} :
    Faithful ListValue.format (levels + 3) :=
  .structured <|
    .both (scalar_whole Scalar.bytes_faithful).repeated <|
    .both (packed_faithful Scalar.int64_faithful) <|
    .both (packed_faithful Scalar.float_faithful) <|
    .both (packed_faithful Scalar.bool_faithful) <|
    .both (packed_faithful Scalar.int32_faithful) <|
    .both (message_whole TensorShape.format_faithful).repeated <|
    (message_whole TensorProto.format_faithful).repeated

theorem AttrValue.format_faithful {levels : Nat} :
    Faithful AttrValue.format (levels + 4) := by
  refine choice_faithful ?_
  simp only [List.forall_mem_cons]
  exact
    ⟨(message_whole ListValue.format_faithful).alternative _ _,
      (scalar_whole Scalar.bytes_faithful).alternative _ _,
      (scalar_whole Scalar.int64_faithful).alternative _ _,
      (scalar_whole Scalar.float_faithful).alternative _ _,
      (scalar_whole Scalar.bool_faithful).alternative _ _,
      (scalar_whole Scalar.int32_faithful).alternative _ _,
      (message_whole TensorShape.format_faithful).alternative _ _,
      (message_whole TensorProto.format_faithful).alternative _ _,
      (scalar_whole Scalar.text_faithful).alternative _ _,
      fun _ none => absurd none List.not_mem_nil⟩

theorem NodeDef.format_faithful : Faithful NodeDef.format 6 :=
  .structured <|
    .both (scalar_whole Scalar.text_faithful).omitting <|
    .both (scalar_whole Scalar.text_faithful).omitting <|
    .both (scalar_whole Scalar.text_faithful).repeated <|
    .both (scalar_whole Scalar.text_faithful).omitting <|
    map_faithful AttrValue.format_faithful

end TensorFlow

namespace Onnx

theorem Attribute.format_faithful {levels : Nat} : Faithful Attribute.format levels :=
  .structured <|
    .both (scalar_whole Scalar.text_faithful).omitting <|
    .both (scalar_whole Scalar.float_faithful).omitting <|
    .both (scalar_whole Scalar.int64_faithful).omitting <|
    .both (scalar_whole Scalar.bytes_faithful).omitting <|
    .both (packed_faithful Scalar.float_faithful) <|
    .both (packed_faithful Scalar.int64_faithful) <|
    .both (scalar_whole Scalar.bytes_faithful).repeated <|
    .both (scalar_whole Scalar.text_faithful).omitting <|
    .both (scalar_whole Scalar.int32_faithful).omitting <|
    (scalar_whole Scalar.text_faithful).omitting

theorem Node.format_faithful {levels : Nat} : Faithful Node.format (levels + 1) :=
  .structured <|
    .both (scalar_whole Scalar.text_faithful).repeated <|
    .both (scalar_whole Scalar.text_faithful).repeated <|
    .both (scalar_whole Scalar.text_faithful).omitting <|
    .both (scalar_whole Scalar.text_faithful).omitting <|
    .both (message_whole Attribute.format_faithful).repeated <|
    .both (scalar_whole Scalar.text_faithful).omitting <|
    (scalar_whole Scalar.text_faithful).omitting

end Onnx

inductive MessageType where
  | dim | tensorShape | tensorProto | listValue | attrValue | nodeDef | onnxAttribute | onnxNode

namespace MessageType

abbrev Value : MessageType → Type
  | dim => TensorFlow.Dim
  | tensorShape => TensorFlow.TensorShape
  | tensorProto => TensorFlow.TensorProto
  | listValue => TensorFlow.ListValue
  | attrValue => Option TensorFlow.AttrValue
  | nodeDef => TensorFlow.NodeDef
  | onnxAttribute => Onnx.Attribute
  | onnxNode => Onnx.Node

def format : (type : MessageType) → Format type.Value
  | dim => TensorFlow.Dim.format
  | tensorShape => TensorFlow.TensorShape.format
  | tensorProto => TensorFlow.TensorProto.format
  | listValue => TensorFlow.ListValue.format
  | attrValue => TensorFlow.AttrValue.format
  | nodeDef => TensorFlow.NodeDef.format
  | onnxAttribute => Onnx.Attribute.format
  | onnxNode => Onnx.Node.format

/-- The encodings of a message. There are several only where it has attributes by name, which may
be written in any order. -/
def Encodes (type : MessageType) (value : type.Value) (bs : Bytes) : Prop :=
  match type, value with
  | nodeDef, node => ∃ attrs, attrs.Perm node.attrs.toList ∧ bs = node.encodeInOrder attrs
  | type, value => bs = type.format.encode value

/-- Whatever a message holds, it is empty when it has been cleared. -/
theorem clear_eq (type : MessageType) (value : type.Value) :
    type.format.clear value = type.format.empty := by
  cases type <;> rfl

theorem format_faithful (type : MessageType) : Faithful type.format 6 := by
  cases type with
  | dim => exact TensorFlow.Dim.format_faithful
  | tensorShape => exact TensorFlow.TensorShape.format_faithful
  | tensorProto => exact TensorFlow.TensorProto.format_faithful
  | listValue => exact TensorFlow.ListValue.format_faithful
  | attrValue => exact TensorFlow.AttrValue.format_faithful
  | nodeDef => exact TensorFlow.NodeDef.format_faithful
  | onnxAttribute => exact Onnx.Attribute.format_faithful
  | onnxNode => exact Onnx.Node.format_faithful

end MessageType
end NodeLowering
