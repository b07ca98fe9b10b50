import NodeLowering.Tensor.Content

/-! A tensor between operators: its name, what is known about its shape and element type, its
content if it is constant, and the operators at its ends. -/
namespace NodeLowering

structure Tensor where
  name : String
  /-- Names of the operators that produce the tensor. -/
  sourceOps : List String := []
  /-- Names of the operators that consume the tensor. -/
  destOps : List String := []
  /-- Dimensions, -1 for one that is not known. -/
  shape : Option (List Int64) := none
  content : Option Content := none
  dtype : Option DatumType := none

namespace Tensor

def withShape (t : Tensor) (shape : List Int64) : Tensor := { t with shape := some shape }

def withDtype (t : Tensor) (type : DatumType) : Tensor := { t with dtype := some type }

/-- Attaches constant content, which also gives the shape and the type if they are not known. -/
def withContent (t : Tensor) (content : Content) : Tensor :=
  { t with
    shape := some (t.shape.getD (content.shape.map Int64.ofNat))
    dtype := some (t.dtype.getD content.type)
    content := some content }

def withSourceOp (t : Tensor) (op : String) : Tensor := { t with sourceOps := t.sourceOps ++ [op] }

def withDestOp (t : Tensor) (op : String) : Tensor := { t with destOps := t.destOps ++ [op] }

def isConst (t : Tensor) : Bool := t.content.isSome

/-- One step of describing a tensor. -/
inductive Detail where
  | shape (dims : List Int64)
  | dtype (type : DatumType)
  | content (content : Content)
  | sourceOp (op : String)
  | destOp (op : String)

def add (t : Tensor) : Detail → Tensor
  | .shape dims => t.withShape dims
  | .dtype type => t.withDtype type
  | .content content => t.withContent content
  | .sourceOp op => t.withSourceOp op
  | .destOp op => t.withDestOp op

/-- The tensor that details given one after the other describe. -/
def ofDetails (name : String) (details : List Detail) : Tensor := details.foldl add { name }

/-- The tensors before and after each detail. -/
def stages (name : String) (details : List Detail) : List Tensor :=
  (List.range (details.length + 1)).map fun count => ofDetails name (details.take count)

/-- Equality of all parts, content being compared by `Content.equal`. -/
def equal (t u : Tensor) : Bool :=
  t.name == u.name && t.sourceOps == u.sourceOps && t.destOps == u.destOps &&
    t.shape == u.shape && t.dtype == u.dtype &&
    match t.content, u.content with
    | none, none => true
    | some c, some d => c.equal d
    | _, _ => false

/-- The dimensions in brackets. -/
def shapeText (dims : List Int64) : String :=
  "[" ++ ", ".intercalate (dims.map fun dim => toString dim.toInt) ++ "]"

/-- The name, followed by whatever else is known, each part after a blank. -/
def text (t : Tensor) : String :=
  let dtype := t.dtype.elim "" fun type => " " ++ type.spelling
  let shape := t.shape.elim "" fun dims => " " ++ shapeText dims
  t.name ++ dtype ++ shape ++ if t.isConst then " (const)" else ""

end Tensor
end NodeLowering
