import NodeLowering.Binary
import NodeLowering.Bytes
import NodeLowering.KeyMap

/-! The messages that describe a TensorFlow node. Codes of types are kept as they come. -/
namespace NodeLowering.TensorFlow

structure Dim where
  size : Int64 := 0
  name : String := ""
  deriving DecidableEq, Inhabited

structure TensorShape where
  dims : List Dim := []
  unknownRank : Bool := false
  deriving DecidableEq, Inhabited

/-- A constant: its elements are either little-endian bytes in `content` or values in the list of
their type. Small integers share the list of `Int32`. -/
structure TensorProto where
  dtype : Int32 := 0
  shape : Option TensorShape := none
  version : Int32 := 0
  content : Bytes := []
  floats : List Binary32 := []
  doubles : List Binary64 := []
  ints : List Int32 := []
  strings : List Bytes := []
  int64s : List Int64 := []
  bools : List Bool := []
  deriving DecidableEq, Inhabited

structure ListValue where
  strings : List Bytes := []
  ints : List Int64 := []
  floats : List Binary32 := []
  bools : List Bool := []
  types : List Int32 := []
  shapes : List TensorShape := []
  tensors : List TensorProto := []
  deriving DecidableEq, Inhabited

/-- The value of an attribute. -/
inductive AttrValue where
  | bytes (value : Bytes)
  | int (value : Int64)
  | float (value : Binary32)
  | bool (value : Bool)
  | type (code : Int32)
  | shape (value : TensorShape)
  | tensor (value : TensorProto)
  | list (value : ListValue)
  /-- Stands for a value that is given where the surrounding function is used. -/
  | placeholder (name : String)
  deriving DecidableEq

/-- Attributes may lack a value. -/
structure NodeDef where
  name : String := ""
  op : String := ""
  inputs : List String := []
  device : String := ""
  attrs : KeyMap (Option AttrValue) := .empty
  deriving DecidableEq, Inhabited

end NodeLowering.TensorFlow
