import NodeLowering.Proofs.Wire.Framing
import NodeLowering.Proofs.Wire.Messages

/-! The lengths of encoded messages. Every encoding of a message has the size that the format of its
type computes, and a writer that takes the lengths of blocks from those sizes writes it. -/
namespace NodeLowering
open Wire Wire.Format

namespace TensorFlow

def Dim.framing : Framing Dim.format :=
  .structured <|
    .both (.omitting (.scalar Scalar.int64_sized)) <|
    .omitting (.scalar Scalar.text_sized)

def TensorShape.framing : Framing TensorShape.format :=
  .structured <|
    .both (.repeated (.message Dim.framing)) <|
    .omitting (.scalar Scalar.bool_sized)

def TensorProto.framing : Framing TensorProto.format :=
  .structured <|
    .both (.omitting (.scalar Scalar.int32_sized)) <|
    .both (.optional (.message TensorShape.framing)) <|
    .both (.omitting (.scalar Scalar.int32_sized)) <|
    .both (.omitting (.scalar Scalar.bytes_sized)) <|
    .both (.packed Scalar.float_sized) <|
    .both (.packed Scalar.double_sized) <|
    .both (.packed Scalar.int32_sized) <|
    .both (.repeated (.scalar Scalar.bytes_sized)) <|
    .both (.packed Scalar.int64_sized) <|
    .packed Scalar.bool_sized

def ListValue.framing : Framing ListValue.format :=
  .structured <|
    .both (.repeated (.scalar Scalar.bytes_sized)) <|
    .both (.packed Scalar.int64_sized) <|
    .both (.packed Scalar.float_sized) <|
    .both (.packed Scalar.bool_sized) <|
    .both (.packed Scalar.int32_sized) <|
    .both (.repeated (.message TensorShape.framing)) <|
    .repeated (.message TensorProto.framing)

def AttrValue.framing : Framing AttrValue.format :=
  .choiceCons (.alternative (.message ListValue.framing)) <|
  .choiceCons (.alternative (.scalar Scalar.bytes_sized)) <|
  .choiceCons (.alternative (.scalar Scalar.int64_sized)) <|
  .choiceCons (.alternative (.scalar Scalar.float_sized)) <|
  .choiceCons (.alternative (.scalar Scalar.bool_sized)) <|
  .choiceCons (.alternative (.scalar Scalar.int32_sized)) <|
  .choiceCons (.alternative (.message TensorShape.framing)) <|
  .choiceCons (.alternative (.message TensorProto.framing)) <|
  .choiceCons (.alternative (.scalar Scalar.text_sized)) <|
  .choiceNil

namespace NodeDef

def framing : Framing NodeDef.format :=
  .structured <|
    .both (.omitting (.scalar Scalar.text_sized)) <|
    .both (.omitting (.scalar Scalar.text_sized)) <|
    .both (.repeated (.scalar Scalar.text_sized)) <|
    .both (.omitting (.scalar Scalar.text_sized)) <|
    .map AttrValue.framing

/-- The framing of attributes that are listed in a given order. -/
def attrsFraming : Framing (repeated (binding 5 AttrValue.format (·.isNone))) :=
  .repeated (.binding AttrValue.framing)

def outlineInOrder (node : NodeDef) (attrs : List (String × Option AttrValue)) : Outline :=
  .append (framing.outline { node with attrs := .empty }) (attrsFraming.outline attrs)

theorem write_outlineInOrder (node : NodeDef) (attrs : List (String × Option AttrValue)) :
    (node.outlineInOrder attrs).write = node.encodeInOrder attrs := by
  rw [outlineInOrder, Outline.write, framing.written, attrsFraming.written,
    Framing.encode_repeated, encodeInOrder]

theorem encode_eq_encodeInOrder (node : NodeDef) :
    format.encode node = node.encodeInOrder node.attrs.toList := by
  have fields : format.records node = format.records { node with attrs := .empty } ++
      (repeated (binding 5 AttrValue.format (·.isNone))).records node.attrs.toList := by
    simp only [format, structured, both, map, repeated, List.append_assoc]
    rfl
  rw [encodeInOrder, ← Framing.encode_repeated, encode, fields, List.flatMap_append]
  rfl

theorem length_encodeInOrder {node : NodeDef} {attrs : List (String × Option AttrValue)}
    (perm : attrs.Perm node.attrs.toList) :
    (node.encodeInOrder attrs).length = format.size node := by
  -- Another order of the attributes only moves bytes about.
  have same : (node.encodeInOrder attrs).Perm (node.encodeInOrder node.attrs.toList) :=
    (perm.flatMap_right _).append_left _
  rw [same.length_eq, ← encode_eq_encodeInOrder, framing.sized]

end NodeDef
end TensorFlow

namespace Onnx

def Attribute.framing : Framing Attribute.format :=
  .structured <|
    .both (.omitting (.scalar Scalar.text_sized)) <|
    .both (.omitting (.scalar Scalar.float_sized)) <|
    .both (.omitting (.scalar Scalar.int64_sized)) <|
    .both (.omitting (.scalar Scalar.bytes_sized)) <|
    .both (.packed Scalar.float_sized) <|
    .both (.packed Scalar.int64_sized) <|
    .both (.repeated (.scalar Scalar.bytes_sized)) <|
    .both (.omitting (.scalar Scalar.text_sized)) <|
    .both (.omitting (.scalar Scalar.int32_sized)) <|
    .omitting (.scalar Scalar.text_sized)

def Node.framing : Framing Node.format :=
  .structured <|
    .both (.repeated (.scalar Scalar.text_sized)) <|
    .both (.repeated (.scalar Scalar.text_sized)) <|
    .both (.omitting (.scalar Scalar.text_sized)) <|
    .both (.omitting (.scalar Scalar.text_sized)) <|
    .both (.repeated (.message Attribute.framing)) <|
    .both (.omitting (.scalar Scalar.text_sized)) <|
    .omitting (.scalar Scalar.text_sized)

end Onnx

namespace MessageType

def framing : (type : MessageType) → Framing type.format
  | dim => TensorFlow.Dim.framing
  | tensorShape => TensorFlow.TensorShape.framing
  | tensorProto => TensorFlow.TensorProto.framing
  | listValue => TensorFlow.ListValue.framing
  | attrValue => TensorFlow.AttrValue.framing
  | nodeDef => TensorFlow.NodeDef.framing
  | onnxAttribute => Onnx.Attribute.framing
  | onnxNode => Onnx.Node.framing

/-- The outlines of a message. There are several only where it has attributes by name, which may be
written in any order. -/
def Outlines (type : MessageType) (value : type.Value) (outline : Outline) : Prop :=
  match type, value with
  | nodeDef, node => ∃ attrs, attrs.Perm node.attrs.toList ∧ outline = node.outlineInOrder attrs
  | type, value => outline = type.framing.outline value

theorem exists_outline {type : MessageType} {value : type.Value} {bs : Bytes}
    (encodes : type.Encodes value bs) :
    ∃ outline, type.Outlines value outline ∧ outline.write = bs ∧ outline.Exact := by
  cases type with
  | nodeDef =>
    obtain ⟨attrs, perm, rfl⟩ := encodes
    refine ⟨value.outlineInOrder attrs, ⟨attrs, perm, rfl⟩, value.write_outlineInOrder attrs, ?_⟩
    exact ⟨TensorFlow.NodeDef.framing.exact _, TensorFlow.NodeDef.attrsFraming.exact attrs⟩
  | _ =>
    obtain rfl := encodes
    exact ⟨_, rfl, (framing _).written value, (framing _).exact value⟩

theorem length_of_encodes {type : MessageType} {value : type.Value} {bs : Bytes}
    (encodes : type.Encodes value bs) : bs.length = type.format.size value := by
  cases type with
  | nodeDef =>
    obtain ⟨attrs, perm, rfl⟩ := encodes
    exact TensorFlow.NodeDef.length_encodeInOrder perm
  | _ =>
    obtain rfl := encodes
    exact (framing _).sized value

/-- Whatever order attributes are written in, an encoding has as many bytes as the format computes
for the message, field by field. It is what is written in one pass with the lengths of blocks from
those sizes. At every level the announced length is that of the block, and readers find the block by
it. -/
theorem length_encoding (type : MessageType) (value : type.Value) {bs : Bytes}
    (encodes : type.Encodes value bs) :
    bs.length = type.format.size value ∧
      ∃ outline, type.Outlines value outline ∧ outline.write = bs ∧ outline.Exact ∧
        (bs.length < 18446744073709551616 → outline.Readable) := by
  obtain ⟨outline, outlines, rfl, exact⟩ := exists_outline encodes
  exact ⟨length_of_encodes encodes, outline, outlines, rfl, exact, exact.readable⟩

/-- Two attributes in descending order of their names. A dimension lies in a shape in a tensor in a
list in a value in a binding, and the numbers below zero take ten bytes each. -/
theorem length_encoding_nested :
    let shape : TensorFlow.TensorShape := { dims := [{ size := 2, name := "rows" }] }
    let node : TensorFlow.NodeDef :=
      { op := "Const"
        attrs := .ofList
          [("dtype", some (.type (-3))),
            ("list", some (.list { tensors := [{ shape := some shape, ints := [-1, 5] }] }))] }
    let bs := node.encodeInOrder node.attrs.toList.reverse
    nodeDef.Encodes node bs ∧ bs ≠ nodeDef.format.encode node ∧ bs.length = 68 ∧
      nodeDef.format.size node = 68 ∧
      ∃ outline, nodeDef.Outlines node outline ∧ outline.write = bs ∧ outline.Exact ∧
        outline.Readable := by
  intro shape node bs
  have encodes : nodeDef.Encodes node bs := ⟨_, List.reverse_perm _, rfl⟩
  have length : bs.length = 68 := by decide +kernel
  obtain ⟨size, outline, outlines, written, exact, readable⟩ :=
    length_encoding nodeDef node encodes
  exact ⟨encodes, by decide +kernel, length, size.symm.trans length, outline, outlines, written,
    exact, readable (by rw [length]; decide)⟩

/-- The key of a field with number 20 takes two bytes. -/
example : onnxAttribute.format.size { type := -1 } = 12 := by decide

end MessageType
end NodeLowering
