import NodeLowering.Failure
import NodeLowering.Tensor.Content
import NodeLowering.TensorFlow.DataType
import NodeLowering.TensorFlow.Message

/-! The content of a tensor message, and the message of a content. -/
namespace NodeLowering

/-- The element whose little-endian encoding is the number `n`. -/
def DatumType.ofBits : (type : DatumType) → Nat → type.Elem
  | bool, n => n != 0
  | u8, n => UInt8.ofNat n
  | i8, n => (UInt8.ofNat n).toInt8
  | i32, n => (UInt32.ofNat n).toInt32
  | i64, n => (UInt64.ofNat n).toInt64
  | f32, n => ⟨UInt32.ofNat n⟩
  | f64, n => ⟨UInt64.ofNat n⟩

namespace TensorFlow

/-- Why a tensor message has no content. -/
inductive ContentError where
  | negativeDim
  | invalidType (code : Int32)
  | ragged (length width : Nat)
  | notAsBytes (type : DataType)
  | notListed (type : DataType)
  | shape (cause : ShapeError)
  deriving DecidableEq

def ContentError.message : ContentError → String
  | negativeDim => "Negative dim found"
  | invalidType code => "Invalid DataType " ++ toString code.toInt
  | ragged length width =>
      "Raw tensor content of " ++ toString length ++ " bytes is not made of " ++ toString width ++
        "-byte items"
  | notAsBytes type => "Missing type (for tensor_content) " ++ type.name
  | notListed type => "Missing type (for _val()) " ++ type.name
  | shape cause => cause.message

/-- The extents of a shape. Names and `unknownRank` do not matter. -/
def TensorShape.extents (shape : TensorShape) : Except ContentError (List Nat) :=
  if shape.dims.any (·.size < 0) then .error .negativeDim
  else .ok (shape.dims.map (·.size.toNatClampNeg))

namespace TensorProto

/-- The elements given by a list. Small integers keep the lowest eight bits. -/
def listed (tensor : TensorProto) : (type : DatumType) → List type.Elem
  | .bool => tensor.bools
  | .u8 => tensor.ints.map (·.toUInt32.toUInt8)
  | .i8 => tensor.ints.map (·.toInt8)
  | .i32 => tensor.ints
  | .i64 => tensor.int64s
  | .f32 => tensor.floats
  | .f64 => tensor.doubles

/-- The elements given by little-endian bytes. -/
def unpack (type : DatumType) (content : Bytes) : Except ContentError (List type.Elem) :=
  match Bytes.items (Bytes.cut type.width) content with
  | some chunks => .ok (chunks.map fun chunk => type.ofBits (Bytes.toNat chunk))
  | none => .error (.ragged content.length type.width)

/-- The array whose elements all are `x`. -/
def broadcast (type : DatumType) (extents : List Nat) (x : type.Elem) :
    Except (Failure ContentError) (StridedArray type.Elem) :=
  if StridedArray.maxSize < Layout.positiveVolume extents ∨
      StridedArray.maxSize < Layout.volume extents * type.width then .error .aborted
  else .ok (.fill extents x)

def arrange (type : DatumType) (extents : List Nat) (values : List type.Elem) :
    Except (Failure ContentError) (StridedArray type.Elem) :=
  (StridedArray.ofValues extents values).mapError fun cause => .refused (.shape cause)

/-- The array of the listed elements; a single one stands for all elements of the shape. -/
def arrangeListed (type : DatumType) (extents : List Nat) (values : List type.Elem) :
    Except (Failure ContentError) (StridedArray type.Elem) :=
  match values with
  | [x] => broadcast type extents x
  | values => arrange type extents values

/-- The content of a tensor: little-endian bytes if there are any, which no truth value may be
given by, and else the list of its type. -/
def toContent (tensor : TensorProto) : Except (Failure ContentError) Content := do
  let extents ← ((tensor.shape.getD {}).extents).mapError .refused
  let some dtype := DataType.ofCode? tensor.dtype | .error (.refused (.invalidType tensor.dtype))
  if tensor.content.isEmpty then
    let some type := dtype.datumType? | .error (.refused (.notListed dtype))
    return ⟨type, ← arrangeListed type extents (tensor.listed type)⟩
  else
    let some type := dtype.datumType?.filter (· ≠ .bool) | .error (.refused (.notAsBytes dtype))
    let values ← (unpack type tensor.content).mapError .refused
    return ⟨type, ← arrange type extents values⟩

/-- The message that lists elements. -/
def ofElements : (type : DatumType) → List type.Elem → TensorProto
  | .bool, xs => { bools := xs }
  | .u8, xs => { ints := xs.map fun x => Int32.ofNat x.toNat }
  | .i8, xs => { ints := xs.map (·.toInt32) }
  | .i32, xs => { ints := xs }
  | .i64, xs => { int64s := xs }
  | .f32, xs => { floats := xs }
  | .f64, xs => { doubles := xs }

/-- The message of a content, with its elements in logical order. -/
def ofContent (content : Content) : TensorProto :=
  { ofElements content.type content.values with
    dtype := (DataType.ofDatum content.type).code
    shape := some ⟨content.shape.map fun extent => ⟨Int64.ofNat extent, ""⟩, false⟩ }

end TensorProto
end TensorFlow
end NodeLowering
