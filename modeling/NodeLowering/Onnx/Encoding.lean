import NodeLowering.Onnx.Message
import NodeLowering.Wire.Format

/-! The encodings of ONNX's messages. -/
namespace NodeLowering.Onnx
open Wire Wire.Format

/-- A floating point zero is left out whatever its sign. -/
def Attribute.format : Format Attribute :=
  structured
    (both (omitting (· == "") (scalar 1 .text)) <|
      both (omitting Binary32.isZero (scalar 2 .float)) <|
      both (omitting (· == 0) (scalar 3 .int64)) <|
      both (omitting List.isEmpty (scalar 4 .bytes)) <|
      both (packed 7 .float) <|
      both (packed 8 .int64) <|
      both (repeated (scalar 9 .bytes)) <|
      both (omitting (· == "") (scalar 13 .text)) <|
      both (omitting (· == 0) (scalar 20 .int32)) <|
      omitting (· == "") (scalar 21 .text))
    (fun (name, float, int, bytes, floats, ints, strings, docString, type, refName) =>
      ⟨name, float, int, bytes, floats, ints, strings, docString, type, refName⟩)
    (fun attr =>
      (attr.name, attr.float, attr.int, attr.bytes, attr.floats, attr.ints, attr.strings,
        attr.docString, attr.type, attr.refName))

def Node.format : Format Node :=
  structured
    (both (repeated (scalar 1 .text)) <|
      both (repeated (scalar 2 .text)) <|
      both (omitting (· == "") (scalar 3 .text)) <|
      both (omitting (· == "") (scalar 4 .text)) <|
      both (repeated (message 5 Attribute.format)) <|
      both (omitting (· == "") (scalar 6 .text)) <|
      omitting (· == "") (scalar 7 .text))
    (fun (inputs, outputs, name, opType, attributes, docString, domain) =>
      ⟨inputs, outputs, name, opType, attributes, docString, domain⟩)
    (fun node =>
      (node.inputs, node.outputs, node.name, node.opType, node.attributes, node.docString,
        node.domain))

end NodeLowering.Onnx
