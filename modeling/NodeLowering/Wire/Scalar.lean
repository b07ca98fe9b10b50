import NodeLowering.Binary
import NodeLowering.Text.Utf8
import NodeLowering.Wire.Record

/-! Values that are one payload: numbers, text and byte strings. -/
namespace NodeLowering.Wire

/-- How values of a type are payloads of one wire type. -/
structure Scalar (α : Type) where
  wire : WireType
  zero : α
  toPayload : α → Payload
  ofPayload : Payload → Option α
  /-- The size of the payload of a value. -/
  size : α → Nat

namespace Scalar

def int64 : Scalar Int64 where
  wire := .varint
  zero := 0
  toPayload x := .varint x.toUInt64
  ofPayload
    | .varint value => some value.toInt64
    | _ => none
  size x := Varint.size x.toUInt64

/-- A negative number is written with 64 bits, and only the 32 lowest are read. -/
def int32 : Scalar Int32 where
  wire := .varint
  zero := 0
  toPayload x := .varint x.toInt64.toUInt64
  ofPayload
    | .varint value => some value.toUInt32.toInt32
    | _ => none
  size x := Varint.size x.toInt64.toUInt64

def bool : Scalar Bool where
  wire := .varint
  zero := false
  toPayload b := .varint (if b then 1 else 0)
  ofPayload
    | .varint value => some (value != 0)
    | _ => none
  size _ := 1

def float : Scalar Binary32 where
  wire := .fixed32
  zero := ⟨0⟩
  toPayload x := .fixed32 x.bits
  ofPayload
    | .fixed32 value => some ⟨value⟩
    | _ => none
  size _ := 4

def double : Scalar Binary64 where
  wire := .fixed64
  zero := ⟨0⟩
  toPayload x := .fixed64 x.bits
  ofPayload
    | .fixed64 value => some ⟨value⟩
    | _ => none
  size _ := 8

def bytes : Scalar Bytes where
  wire := .block
  zero := []
  toPayload bs := .block bs
  ofPayload
    | .block content => some content
    | _ => none
  size bs := Payload.blockSize bs.length

def text : Scalar String where
  wire := .block
  zero := ""
  toPayload s := .block (Utf8.bytes s)
  ofPayload
    | .block content => Utf8.decode content
    | _ => none
  size s := Payload.blockSize s.utf8ByteSize

end Scalar
end NodeLowering.Wire
