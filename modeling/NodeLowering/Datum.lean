import NodeLowering.Binary

/-! The element types of tensors and their values. -/
namespace NodeLowering

/-- The order of the constructors is the order of the types. -/
inductive DatumType where
  | bool | u8 | i8 | i32 | i64 | f32 | f64
  deriving DecidableEq, Ord, Inhabited

namespace DatumType

def all : List DatumType := [bool, u8, i8, i32, i64, f32, f64]

/-- The spelling in compiled graphs. -/
def spelling : DatumType → String
  | bool => "bool"
  | u8 => "uint8"
  | i8 => "int8"
  | i32 => "int32"
  | i64 => "int64"
  | f32 => "fp32"
  | f64 => "fp64"

/-- The name in diagnostics. -/
def name : DatumType → String
  | bool => "Bool"
  | u8 => "U8"
  | i8 => "I8"
  | i32 => "I32"
  | i64 => "I64"
  | f32 => "F32"
  | f64 => "F64"

def ofName? (name : String) : Option DatumType := all.find? (·.name == name)

/-- Bytes that one element takes in memory. -/
def width : DatumType → Nat
  | bool | u8 | i8 => 1
  | i32 | f32 => 4
  | i64 | f64 => 8

/-- The values of a type. -/
abbrev Elem : DatumType → Type
  | bool => Bool
  | u8 => UInt8
  | i8 => Int8
  | i32 => Int32
  | i64 => Int64
  | f32 => Binary32
  | f64 => Binary64

instance : (type : DatumType) → DecidableEq type.Elem
  | bool => inferInstanceAs (DecidableEq Bool)
  | u8 => inferInstanceAs (DecidableEq UInt8)
  | i8 => inferInstanceAs (DecidableEq Int8)
  | i32 => inferInstanceAs (DecidableEq Int32)
  | i64 => inferInstanceAs (DecidableEq Int64)
  | f32 => inferInstanceAs (DecidableEq Binary32)
  | f64 => inferInstanceAs (DecidableEq Binary64)

/-- Equality of elements, numeric for floating point types. -/
def equal : (type : DatumType) → type.Elem → type.Elem → Bool
  | bool, x, y => x == y
  | u8, x, y => x == y
  | i8, x, y => x == y
  | i32, x, y => x == y
  | i64, x, y => x == y
  | f32, x, y => x.equal y
  | f64, x, y => x.equal y

/-- The element as a 64-bit integer, if the type is an integer type. -/
def toInt64? : (type : DatumType) → type.Elem → Option Int64
  | bool, _ => none
  | u8, x => some (Int64.ofNat x.toNat)
  | i8, x => some x.toInt64
  | i32, x => some x.toInt64
  | i64, x => some x
  | f32, _ => none
  | f64, _ => none

def isNaN : (type : DatumType) → type.Elem → Bool
  | f32, x => x.isNaN
  | f64, x => x.isNaN
  | _, _ => false

end DatumType
end NodeLowering
