import NodeLowering.Onnx.Message

/-! Reading the attributes of a node. The type of an attribute decides which of its values is
meant; producers that know no types leave it undefined. -/
namespace NodeLowering.Onnx

inductive AttributeError where
  | invalidType (attr : String) (code : Int32)
  | notInt (attr : String) (type : AttributeType)
  | noAttribute (node opType : String)
  deriving DecidableEq

def AttributeError.message : AttributeError → String
  | invalidType attr code => "Attribute " ++ attr ++ " has invalid type " ++ toString code.toInt
  | notInt attr type => "Attribute " ++ attr ++ " is a " ++ type.description ++ ", expected int"
  | noAttribute node opType => "Node " ++ node ++ " (" ++ opType ++ ") has no attribute"

def Attribute.attributeType (attr : Attribute) : Except AttributeError AttributeType :=
  match AttributeType.ofCode? attr.type with
  | some type => .ok type
  | none => .error (.invalidType attr.name attr.type)

/-- The integer value. An undefined type is taken for an integer type. -/
def Attribute.toInt (attr : Attribute) : Except AttributeError Int64 := do
  match ← attr.attributeType with
  | .int | .undefined => .ok attr.int
  | type => .error (.notInt attr.name type)

def Node.firstAttribute (node : Node) : Except AttributeError Attribute :=
  match node.attributes with
  | attr :: _ => .ok attr
  | [] => .error (.noAttribute node.name node.opType)

end NodeLowering.Onnx
