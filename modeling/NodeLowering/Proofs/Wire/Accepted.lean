import NodeLowering.Proofs.Wire.MessageStreams

/-! The fields that each kind of message declares, and the byte strings that decode: those that the
declaration allows, where messages and groups lie in each other at most a hundred deep. Bindings of
a map have no declaration here, since reading them does not go by the wire types of their keys. -/
namespace NodeLowering
open Wire Wire.Format

namespace TensorFlow

def Dim.fields : Fields := [(1, .plain .varint), (2, .text)]

def TensorShape.fields : Fields := [(2, .message Dim.fields), (3, .plain .varint)]

def TensorProto.fields : Fields :=
  [ (1, .plain .varint), (2, .message TensorShape.fields), (3, .plain .varint), (4, .plain .block),
    (5, .packed .fixed32), (6, .packed .fixed64), (7, .packed .varint), (8, .plain .block),
    (10, .packed .varint), (11, .packed .varint) ]

def ListValue.fields : Fields :=
  [ (2, .plain .block), (3, .packed .varint), (4, .packed .fixed32), (5, .packed .varint),
    (6, .packed .varint), (7, .message TensorShape.fields), (8, .message TensorProto.fields) ]

def AttrValue.fields : Fields :=
  [ (1, .message ListValue.fields), (2, .plain .block), (3, .plain .varint), (4, .plain .fixed32),
    (5, .plain .varint), (6, .plain .varint), (7, .message TensorShape.fields),
    (8, .message TensorProto.fields), (9, .text) ]

theorem Dim.format_conforms {levels : Nat} : Conforms Dim.format Dim.fields levels :=
  .structured <|
    .both (scalar_conforms Scalar.int64_plain).omitting <|
    text_conforms.omitting

theorem TensorShape.format_conforms {levels : Nat} :
    Conforms TensorShape.format TensorShape.fields (levels + 1) :=
  .structured <|
    .both (message_conforms Dim.format_conforms).repeated <|
    (scalar_conforms Scalar.bool_plain).omitting

theorem TensorProto.format_conforms {levels : Nat} :
    Conforms TensorProto.format TensorProto.fields (levels + 2) :=
  .structured <|
    .both (scalar_conforms Scalar.int32_plain).omitting <|
    .both (message_conforms TensorShape.format_conforms).optional <|
    .both (scalar_conforms Scalar.int32_plain).omitting <|
    .both (scalar_conforms Scalar.bytes_plain).omitting <|
    .both (packed_conforms Scalar.float_plain) <|
    .both (packed_conforms Scalar.double_plain) <|
    .both (packed_conforms Scalar.int32_plain) <|
    .both (scalar_conforms Scalar.bytes_plain).repeated <|
    .both (packed_conforms Scalar.int64_plain) <|
    packed_conforms Scalar.bool_plain

theorem ListValue.format_conforms {levels : Nat} :
    Conforms ListValue.format ListValue.fields (levels + 3) :=
  .structured <|
    .both (scalar_conforms Scalar.bytes_plain).repeated <|
    .both (packed_conforms Scalar.int64_plain) <|
    .both (packed_conforms Scalar.float_plain) <|
    .both (packed_conforms Scalar.bool_plain) <|
    .both (packed_conforms Scalar.int32_plain) <|
    .both (message_conforms TensorShape.format_conforms).repeated <|
    (message_conforms TensorProto.format_conforms).repeated

theorem AttrValue.format_conforms {levels : Nat} :
    Conforms AttrValue.format AttrValue.fields (levels + 4) :=
  choice_conforms <|
    .cons ((message_conforms ListValue.format_conforms).alternative _ _) <|
    .cons ((scalar_conforms Scalar.bytes_plain).alternative _ _) <|
    .cons ((scalar_conforms Scalar.int64_plain).alternative _ _) <|
    .cons ((scalar_conforms Scalar.float_plain).alternative _ _) <|
    .cons ((scalar_conforms Scalar.bool_plain).alternative _ _) <|
    .cons ((scalar_conforms Scalar.int32_plain).alternative _ _) <|
    .cons ((message_conforms TensorShape.format_conforms).alternative _ _) <|
    .cons ((message_conforms TensorProto.format_conforms).alternative _ _) <|
    .cons (text_conforms.alternative _ _) .nil

end TensorFlow

namespace Onnx

def Attribute.fields : Fields :=
  [ (1, .text), (2, .plain .fixed32), (3, .plain .varint), (4, .plain .block),
    (7, .packed .fixed32), (8, .packed .varint), (9, .plain .block), (13, .text),
    (20, .plain .varint), (21, .text) ]

def Node.fields : Fields :=
  [ (1, .text), (2, .text), (3, .text), (4, .text), (5, .message Attribute.fields), (6, .text),
    (7, .text) ]

theorem Attribute.format_conforms {levels : Nat} :
    Conforms Attribute.format Attribute.fields levels :=
  .structured <|
    .both text_conforms.omitting <|
    .both (scalar_conforms Scalar.float_plain).omitting <|
    .both (scalar_conforms Scalar.int64_plain).omitting <|
    .both (scalar_conforms Scalar.bytes_plain).omitting <|
    .both (packed_conforms Scalar.float_plain) <|
    .both (packed_conforms Scalar.int64_plain) <|
    .both (scalar_conforms Scalar.bytes_plain).repeated <|
    .both text_conforms.omitting <|
    .both (scalar_conforms Scalar.int32_plain).omitting <|
    text_conforms.omitting

theorem Node.format_conforms {levels : Nat} :
    Conforms Node.format Node.fields (levels + 1) :=
  .structured <|
    .both text_conforms.repeated <|
    .both text_conforms.repeated <|
    .both text_conforms.omitting <|
    .both text_conforms.omitting <|
    .both (message_conforms Attribute.format_conforms).repeated <|
    .both text_conforms.omitting <|
    text_conforms.omitting

end Onnx

namespace MessageType

/-- The declared fields of the messages that have no map among them. -/
def fields? : MessageType → Option Fields
  | dim => some TensorFlow.Dim.fields
  | tensorShape => some TensorFlow.TensorShape.fields
  | tensorProto => some TensorFlow.TensorProto.fields
  | listValue => some TensorFlow.ListValue.fields
  | attrValue => some TensorFlow.AttrValue.fields
  | nodeDef => none
  | onnxAttribute => some Onnx.Attribute.fields
  | onnxNode => some Onnx.Node.fields

theorem format_conforms {type : MessageType} {fields : Fields}
    (declared : type.fields? = some fields) : Conforms type.format fields 4 := by
  cases type with
  | nodeDef => contradiction
  | dim =>
    obtain rfl := Option.some.inj declared
    exact TensorFlow.Dim.format_conforms
  | tensorShape =>
    obtain rfl := Option.some.inj declared
    exact TensorFlow.TensorShape.format_conforms
  | tensorProto =>
    obtain rfl := Option.some.inj declared
    exact TensorFlow.TensorProto.format_conforms
  | listValue =>
    obtain rfl := Option.some.inj declared
    exact TensorFlow.ListValue.format_conforms
  | attrValue =>
    obtain rfl := Option.some.inj declared
    exact TensorFlow.AttrValue.format_conforms
  | onnxAttribute =>
    obtain rfl := Option.some.inj declared
    exact Onnx.Attribute.format_conforms
  | onnxNode =>
    obtain rfl := Option.some.inj declared
    exact Onnx.Node.format_conforms

/-- Exactly the messages of the declared fields can be merged, whatever they are merged into. -/
theorem update_isSome_iff {type : MessageType} {fields : Fields}
    (declared : type.fields? = some fields) (present : type.Value) (bs : Bytes) :
    (type.format.update present bs).isSome ↔ Message fields maxDepth bs :=
  (format_conforms declared).merge_isSome_iff (by decide) present bs

/-- A byte string decodes exactly if it is a message of the declared fields: records with whole keys
and payloads, where those of a declared field are what the field may hold. A reader that takes the
fields in a block from all that follows and looks at the length of the block afterwards decodes the
same byte strings, and to the same messages. -/
theorem decode_isSome_iff {type : MessageType} {fields : Fields}
    (declared : type.fields? = some fields) (bs : Bytes) :
    ((type.format.decode bs).isSome ↔ Message fields maxDepth bs) ∧
      type.updateThrough type.format.empty bs = type.format.decode bs :=
  ⟨update_isSome_iff declared type.format.empty bs, type.updateThrough_eq type.format.empty bs⟩

/-- A shape with one dimension, whose size takes more bytes than it needs, and a group that no field
declares. Ended by the key of another group it is no message. -/
theorem decode_isSome_iff_group :
    let shape : Bytes := [0x12, 3, 0x08, 0x85, 0x00, 0x7B, 0x08, 1]
    tensorShape.fields? = some TensorFlow.TensorShape.fields ∧
      Message TensorFlow.TensorShape.fields maxDepth (shape ++ [0x7C]) ∧
      ¬ Message TensorFlow.TensorShape.fields maxDepth (shape ++ [0x74]) ∧
      tensorShape.updateThrough {} (shape ++ [0x74]) = none := by
  intro shape
  have declared : tensorShape.fields? = some TensorFlow.TensorShape.fields := rfl
  obtain ⟨whole, -⟩ := decode_isSome_iff declared (shape ++ [0x7C])
  obtain ⟨ended, through⟩ := decode_isSome_iff declared (shape ++ [0x74])
  have refused : tensorShape.format.decode (shape ++ [0x74]) = none := by decide +kernel
  refine ⟨declared, whole.mp (by decide +kernel), ?_, through.trans refused⟩
  intro message
  exact absurd (ended.mpr message) (by rw [refused]; exact Bool.false_ne_true)

end MessageType
end NodeLowering
