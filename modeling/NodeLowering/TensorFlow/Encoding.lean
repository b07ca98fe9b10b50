import NodeLowering.TensorFlow.Message
import NodeLowering.Wire.Format

/-! The encodings of TensorFlow's messages. -/
namespace NodeLowering.TensorFlow
open Wire Wire.Format

def Dim.format : Format Dim :=
  structured
    (both (omitting (· == 0) (scalar 1 .int64))
      (omitting (· == "") (scalar 2 .text)))
    (fun (size, name) => ⟨size, name⟩)
    (fun dim => (dim.size, dim.name))

def TensorShape.format : Format TensorShape :=
  structured
    (both (repeated (message 2 Dim.format))
      (omitting (· == false) (scalar 3 .bool)))
    (fun (dims, unknownRank) => ⟨dims, unknownRank⟩)
    (fun shape => (shape.dims, shape.unknownRank))

def TensorProto.format : Format TensorProto :=
  structured
    (both (omitting (· == 0) (scalar 1 .int32)) <|
      both (optional (message 2 TensorShape.format)) <|
      both (omitting (· == 0) (scalar 3 .int32)) <|
      both (omitting List.isEmpty (scalar 4 .bytes)) <|
      both (packed 5 .float) <|
      both (packed 6 .double) <|
      both (packed 7 .int32) <|
      both (repeated (scalar 8 .bytes)) <|
      both (packed 10 .int64) <|
      packed 11 .bool)
    (fun (dtype, shape, version, content, floats, doubles, ints, strings, int64s, bools) =>
      ⟨dtype, shape, version, content, floats, doubles, ints, strings, int64s, bools⟩)
    (fun tensor =>
      (tensor.dtype, tensor.shape, tensor.version, tensor.content, tensor.floats, tensor.doubles,
        tensor.ints, tensor.strings, tensor.int64s, tensor.bools))

def ListValue.format : Format ListValue :=
  structured
    (both (repeated (scalar 2 .bytes)) <|
      both (packed 3 .int64) <|
      both (packed 4 .float) <|
      both (packed 5 .bool) <|
      both (packed 6 .int32) <|
      both (repeated (message 7 TensorShape.format)) <|
      repeated (message 8 TensorProto.format))
    (fun (strings, ints, floats, bools, types, shapes, tensors) =>
      ⟨strings, ints, floats, bools, types, shapes, tensors⟩)
    (fun list =>
      (list.strings, list.ints, list.floats, list.bools, list.types, list.shapes, list.tensors))

/-- The value is one field with a number for each kind of value. -/
def AttrValue.format : Format (Option AttrValue) :=
  choice
    [ alternative (message 1 ListValue.format) .list fun | .list x => some x | _ => none,
      alternative (scalar 2 .bytes) .bytes fun | .bytes x => some x | _ => none,
      alternative (scalar 3 .int64) .int fun | .int x => some x | _ => none,
      alternative (scalar 4 .float) .float fun | .float x => some x | _ => none,
      alternative (scalar 5 .bool) .bool fun | .bool x => some x | _ => none,
      alternative (scalar 6 .int32) .type fun | .type x => some x | _ => none,
      alternative (message 7 TensorShape.format) .shape fun | .shape x => some x | _ => none,
      alternative (message 8 TensorProto.format) .tensor fun | .tensor x => some x | _ => none,
      alternative (scalar 9 .text) .placeholder fun | .placeholder x => some x | _ => none ]

namespace NodeDef

def format : Format NodeDef :=
  structured
    (both (omitting (· == "") (scalar 1 .text)) <|
      both (omitting (· == "") (scalar 2 .text)) <|
      both (repeated (scalar 3 .text)) <|
      both (omitting (· == "") (scalar 4 .text)) <|
      map 5 AttrValue.format (·.isNone))
    (fun (name, op, inputs, device, attrs) => ⟨name, op, inputs, device, attrs⟩)
    (fun node => (node.name, node.op, node.inputs, node.device, node.attrs))

/-- The encoding with attributes listed in a given order. They come after all other fields. -/
def encodeInOrder (node : NodeDef) (attrs : List (String × Option AttrValue)) : Bytes :=
  format.encode { node with attrs := .empty } ++
    attrs.flatMap (binding 5 AttrValue.format (·.isNone)).encode

end NodeDef
end NodeLowering.TensorFlow
