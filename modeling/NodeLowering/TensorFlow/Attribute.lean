import NodeLowering.Tensor.Basic
import NodeLowering.TensorFlow.Content

/-! Attributes of a node by name and kind. An attribute of another kind counts as absent, one of
the right kind that cannot be read is an error. -/
namespace NodeLowering.TensorFlow

inductive NodeError where
  | noDatumType (type : DataType)
  | invalidType (node : String) (code : Int32)
  | lacksDatumType (node op attr : String)
  | lacksTensor (node op attr : String)
  | tensor (node attr : String) (cause : ContentError)
  | notConst (node op : String)
  | otherType (node : String) (expected : DatumType)
  deriving DecidableEq

def NodeError.message : NodeError → String
  | noDatumType type => "Unknown DatumType " ++ type.name
  | invalidType node code => "Node " ++ node ++ " has invalid DataType " ++ toString code.toInt
  | lacksDatumType node op attr =>
      "Node " ++ node ++ " (" ++ op ++ ") expected datum_type attribute '" ++ attr ++ "'"
  | lacksTensor node op attr =>
      "Node " ++ node ++ " (" ++ op ++ ") expected tensor attribute '" ++ attr ++ "'"
  | tensor node attr cause =>
      "Decoding tensor attribute '" ++ attr ++ "' of node " ++ node ++ ": " ++ cause.message
  | notConst node op => "Node " ++ node ++ " is a " ++ op ++ ", not a Const"
  | otherType node expected =>
      "Const node " ++ node ++ " doesn't have the expected " ++ expected.name ++ " type."

def DataType.toDatumType (type : DataType) : Except NodeError DatumType :=
  match type.datumType? with
  | some datum => .ok datum
  | none => .error (.noDatumType type)

namespace NodeDef

def attr? (node : NodeDef) (attr : String) : Option AttrValue := (node.attrs.find? attr).join

def datumType? (node : NodeDef) (attr : String) : Except NodeError (Option DatumType) :=
  match node.attr? attr with
  | some (.type code) =>
      match DataType.ofCode? code with
      | some type => type.toDatumType.map some
      | none => .error (.invalidType node.name code)
  | _ => .ok none

def datumType (node : NodeDef) (attr : String) : Except NodeError DatumType := do
  match ← node.datumType? attr with
  | some type => .ok type
  | none => .error (.lacksDatumType node.name node.op attr)

def tensor? (node : NodeDef) (attr : String) : Except (Failure NodeError) (Option Content) :=
  match node.attr? attr with
  | some (.tensor tensor) =>
      match tensor.toContent with
      | .ok content => .ok (some content)
      | .error failure => .error (failure.map (.tensor node.name attr))
  | _ => .ok none

def tensor (node : NodeDef) (attr : String) : Except (Failure NodeError) Content := do
  match ← node.tensor? attr with
  | some content => .ok content
  | none => .error (.refused (.lacksTensor node.name node.op attr))

/-- The tensor that a `Const` node produces. It is the node's first output. -/
def toConst (node : NodeDef) : Except (Failure NodeError) Tensor := do
  if node.op ≠ "Const" then throw (.refused (.notConst node.name node.op))
  let type ← (node.datumType "dtype").mapError .refused
  let content ← node.tensor "value"
  if content.type ≠ type then throw (.refused (.otherType node.name type))
  return (Tensor.withSourceOp { name := node.name ++ ":0" } node.name).withContent content

end NodeDef
end NodeLowering.TensorFlow
