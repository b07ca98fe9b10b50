import NodeLowering.Binary
import NodeLowering.Bytes

/-! The messages that describe an ONNX node. The type of an attribute is kept as the code that
came with it. -/
namespace NodeLowering.Onnx

inductive AttributeType where
  | undefined | float | int | string | tensor | graph | floats | ints | strings | tensors | graphs
  | sparseTensor | sparseTensors | typeProto | typeProtos
  deriving DecidableEq, Inhabited

namespace AttributeType

def all : List AttributeType :=
  [undefined, float, int, string, tensor, graph, floats, ints, strings, tensors, graphs,
    sparseTensor, sparseTensors, typeProto, typeProtos]

def code : AttributeType → Int32
  | undefined => 0
  | float => 1
  | int => 2
  | string => 3
  | tensor => 4
  | graph => 5
  | floats => 6
  | ints => 7
  | strings => 8
  | tensors => 9
  | graphs => 10
  | sparseTensor => 11
  | sparseTensors => 12
  | typeProto => 13
  | typeProtos => 14

def ofCode? (code : Int32) : Option AttributeType := all.find? (·.code == code)

/-- The type of a code, `undefined` for a code without one. -/
def ofCode (code : Int32) : AttributeType := (ofCode? code).getD undefined

/-- The name of the type. -/
def name : AttributeType → String
  | undefined => "Undefined"
  | float => "Float"
  | int => "Int"
  | string => "String"
  | tensor => "Tensor"
  | graph => "Graph"
  | floats => "Floats"
  | ints => "Ints"
  | strings => "Strings"
  | tensors => "Tensors"
  | graphs => "Graphs"
  | sparseTensor => "SparseTensor"
  | sparseTensors => "SparseTensors"
  | typeProto => "TypeProto"
  | typeProtos => "TypeProtos"

/-- What diagnostics call a value of the type. -/
def description : AttributeType → String
  | int => "int"
  | float => "float"
  | tensor => "tensor"
  | string => "string"
  | ints => "list of ints"
  | floats => "list of floats"
  | tensors => "list of tensors"
  | strings => "list of strings"
  | graph => "graph"
  | graphs => "graphs"
  | undefined | sparseTensor | sparseTensors | typeProto | typeProtos => "<undefined>"

theorem ofCode?_code (type : AttributeType) : ofCode? type.code = some type := by
  cases type <;> decide

end AttributeType

structure Attribute where
  name : String := ""
  float : Binary32 := ⟨0⟩
  int : Int64 := 0
  bytes : Bytes := []
  floats : List Binary32 := []
  ints : List Int64 := []
  strings : List Bytes := []
  docString : String := ""
  /-- Tells which of the values is meant. -/
  type : Int32 := 0
  /-- Names an attribute of the surrounding function. -/
  refName : String := ""
  deriving DecidableEq, Inhabited

namespace Attribute

def ofInt (name : String) (value : Int64) : Attribute :=
  { name, int := value, type := AttributeType.int.code }

def ofFloat (name : String) (value : Binary32) : Attribute :=
  { name, float := value, type := AttributeType.float.code }

end Attribute

structure Node where
  inputs : List String := []
  outputs : List String := []
  name : String := ""
  opType : String := ""
  attributes : List Attribute := []
  docString : String := ""
  domain : String := ""
  deriving DecidableEq, Inhabited

end NodeLowering.Onnx
