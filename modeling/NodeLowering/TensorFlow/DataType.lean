import NodeLowering.Datum

/-! The element types of TensorFlow. Messages hold their codes, and not every code is a type. -/
namespace NodeLowering.TensorFlow

inductive DataType where
  | invalid | float | double | int32 | uint8 | int16 | int8 | string | complex64 | int64 | bool
  | qint8 | quint8 | qint32 | bfloat16 | uint16 | half | uint32 | uint64
  deriving DecidableEq, Inhabited

namespace DataType

def all : List DataType :=
  [invalid, float, double, int32, uint8, int16, int8, string, complex64, int64, bool,
    qint8, quint8, qint32, bfloat16, uint16, half, uint32, uint64]

def code : DataType → Int32
  | invalid => 0
  | float => 1
  | double => 2
  | int32 => 3
  | uint8 => 4
  | int16 => 5
  | int8 => 6
  | string => 7
  | complex64 => 8
  | int64 => 9
  | bool => 10
  | qint8 => 11
  | quint8 => 12
  | qint32 => 13
  | bfloat16 => 14
  | uint16 => 17
  | half => 19
  | uint32 => 22
  | uint64 => 23

def ofCode? (code : Int32) : Option DataType := all.find? (·.code == code)

/-- The type of a code, `invalid` for a code without one. -/
def ofCode (code : Int32) : DataType := (ofCode? code).getD invalid

/-- The name in diagnostics. -/
def name : DataType → String
  | invalid => "DtInvalid"
  | float => "DtFloat"
  | double => "DtDouble"
  | int32 => "DtInt32"
  | uint8 => "DtUint8"
  | int16 => "DtInt16"
  | int8 => "DtInt8"
  | string => "DtString"
  | complex64 => "DtComplex64"
  | int64 => "DtInt64"
  | bool => "DtBool"
  | qint8 => "DtQint8"
  | quint8 => "DtQuint8"
  | qint32 => "DtQint32"
  | bfloat16 => "DtBfloat16"
  | uint16 => "DtUint16"
  | half => "DtHalf"
  | uint32 => "DtUint32"
  | uint64 => "DtUint64"

/-- The types whose elements a tensor can hold. -/
def datumType? : DataType → Option DatumType
  | bool => some .bool
  | uint8 => some .u8
  | int8 => some .i8
  | int32 => some .i32
  | int64 => some .i64
  | float => some .f32
  | double => some .f64
  | _ => none

def ofDatum : DatumType → DataType
  | .bool => bool
  | .u8 => uint8
  | .i8 => int8
  | .i32 => int32
  | .i64 => int64
  | .f32 => float
  | .f64 => double

theorem ofCode?_code (type : DataType) : ofCode? type.code = some type := by
  cases type <;> decide

theorem datumType?_ofDatum (type : DatumType) : (ofDatum type).datumType? = some type := by
  cases type <;> rfl

end DataType
end NodeLowering.TensorFlow
