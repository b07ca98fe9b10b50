import NodeLowering.Proofs.Wire.Messages

/-! What merging an encoded message into another one gives, field by field. A field that is not set
in the second message is taken from the first; lists are put one behind the other; messages in
messages are merged in their turn. The one value that an encoding cannot carry is a negative zero as
the floating point value of an ONNX attribute, which is left out like the positive one. -/
namespace NodeLowering
open Wire Wire.Format

/-- The second value, unless it is the one that stands for nothing set. -/
def latest {α : Type} [DecidableEq α] (unset first second : α) : α :=
  if second = unset then first else second

theorem latest_unset {α : Type} [DecidableEq α] (unset second : α) :
    latest unset unset second = second := by
  rw [latest]
  split
  · next same => exact same.symm
  · rfl

namespace TensorFlow

def Dim.merge (first second : Dim) : Dim where
  size := latest 0 first.size second.size
  name := latest "" first.name second.name

def TensorShape.merge (first second : TensorShape) : TensorShape where
  dims := first.dims ++ second.dims
  unknownRank := latest false first.unknownRank second.unknownRank

def TensorProto.merge (first second : TensorProto) : TensorProto where
  dtype := latest 0 first.dtype second.dtype
  shape := Option.merge TensorShape.merge first.shape second.shape
  version := latest 0 first.version second.version
  content := latest [] first.content second.content
  floats := first.floats ++ second.floats
  doubles := first.doubles ++ second.doubles
  ints := first.ints ++ second.ints
  strings := first.strings ++ second.strings
  int64s := first.int64s ++ second.int64s
  bools := first.bools ++ second.bools

def ListValue.merge (first second : ListValue) : ListValue where
  strings := first.strings ++ second.strings
  ints := first.ints ++ second.ints
  floats := first.floats ++ second.floats
  bools := first.bools ++ second.bools
  types := first.types ++ second.types
  shapes := first.shapes ++ second.shapes
  tensors := first.tensors ++ second.tensors

def AttrValue.merge : (first second : Option AttrValue) → Option AttrValue
  | first, none => first
  | some (.shape x), some (.shape y) => some (.shape (x.merge y))
  | some (.tensor x), some (.tensor y) => some (.tensor (x.merge y))
  | some (.list x), some (.list y) => some (.list (x.merge y))
  | _, second => second

def NodeDef.merge (first second : NodeDef) : NodeDef where
  name := latest "" first.name second.name
  op := latest "" first.op second.op
  inputs := first.inputs ++ second.inputs
  device := latest "" first.device second.device
  attrs := first.attrs.union second.attrs

theorem Dim.overlay_eq (first second : Dim) :
    Dim.format.overlay first second = first.merge second := by
  simp [Dim.format, structured, both, omitting, scalar, Dim.merge, latest]

theorem Dim.empty_merge (dim : Dim) : merge {} dim = dim := by
  simp [merge, latest_unset]

theorem Dim.overlay_empty (dim : Dim) : Dim.format.overlay Dim.format.empty dim = dim :=
  (overlay_eq _ dim).trans dim.empty_merge

theorem TensorShape.overlay_eq (first second : TensorShape) :
    TensorShape.format.overlay first second = first.merge second := by
  have dims : Dim.format.overlay Dim.format.empty = id := funext Dim.overlay_empty
  simp [TensorShape.format, structured, both, omitting, scalar, repeated, message, dims,
    TensorShape.merge, latest]

theorem TensorShape.empty_merge (shape : TensorShape) : merge {} shape = shape := by
  simp [merge, latest_unset]

theorem TensorShape.overlay_empty (shape : TensorShape) :
    TensorShape.format.overlay TensorShape.format.empty shape = shape :=
  (overlay_eq _ shape).trans shape.empty_merge

theorem TensorShape.overlay_optional (first second : Option TensorShape) :
    (message 2 TensorShape.format).optional.overlay first second =
      Option.merge TensorShape.merge first second := by
  cases second with
  | none => cases first <;> rfl
  | some y =>
    cases first with
    | none => exact congrArg some y.overlay_empty
    | some x => exact congrArg some (overlay_eq x y)

theorem TensorProto.overlay_eq (first second : TensorProto) :
    TensorProto.format.overlay first second = first.merge second := by
  have shape := TensorShape.overlay_optional first.shape second.shape
  simp [TensorProto.format, structured, both, omitting, scalar, repeated, packed, shape,
    TensorProto.merge, latest]

theorem TensorProto.empty_merge (tensor : TensorProto) : merge {} tensor = tensor := by
  have shape : Option.merge TensorShape.merge none tensor.shape = tensor.shape := by
    cases tensor.shape <;> rfl
  simp [merge, latest_unset, shape]

theorem TensorProto.overlay_empty (tensor : TensorProto) :
    TensorProto.format.overlay TensorProto.format.empty tensor = tensor :=
  (overlay_eq _ tensor).trans tensor.empty_merge

theorem ListValue.overlay_eq (first second : ListValue) :
    ListValue.format.overlay first second = first.merge second := by
  have shapes : TensorShape.format.overlay TensorShape.format.empty = id :=
    funext TensorShape.overlay_empty
  have tensors : TensorProto.format.overlay TensorProto.format.empty = id :=
    funext TensorProto.overlay_empty
  simp [ListValue.format, structured, both, repeated, scalar, message, packed, shapes, tensors,
    ListValue.merge]

theorem ListValue.empty_merge (list : ListValue) : merge {} list = list := by
  simp [merge]

theorem ListValue.overlay_empty (list : ListValue) :
    ListValue.format.overlay ListValue.format.empty list = list :=
  (overlay_eq _ list).trans list.empty_merge

theorem AttrValue.overlay_eq (first second : Option AttrValue) :
    AttrValue.format.overlay first second = AttrValue.merge first second := by
  cases second with
  | none => rfl
  | some value =>
    cases value with
    | bytes | int | float | bool | type | placeholder =>
      cases first with
      | none => rfl
      | some present => cases present <;> rfl
    | shape y =>
      cases first with
      | none => exact congrArg (some ∘ shape) y.overlay_empty
      | some present =>
        cases present with
        | shape x => exact congrArg (some ∘ shape) (TensorShape.overlay_eq x y)
        | _ => exact congrArg (some ∘ shape) y.overlay_empty
    | tensor y =>
      cases first with
      | none => exact congrArg (some ∘ tensor) y.overlay_empty
      | some present =>
        cases present with
        | tensor x => exact congrArg (some ∘ tensor) (TensorProto.overlay_eq x y)
        | _ => exact congrArg (some ∘ tensor) y.overlay_empty
    | list y =>
      cases first with
      | none => exact congrArg (some ∘ list) y.overlay_empty
      | some present =>
        cases present with
        | list x => exact congrArg (some ∘ list) (ListValue.overlay_eq x y)
        | _ => exact congrArg (some ∘ list) y.overlay_empty

theorem AttrValue.empty_merge (value : Option AttrValue) : merge none value = value := by
  cases value with
  | none => rfl
  | some value => cases value <;> rfl

/-- A binding that is read on its own is the one that was written. -/
theorem AttrValue.overlay_binding (pair : String × Option AttrValue) :
    (binding 5 AttrValue.format (·.isNone)).overlay
      (binding 5 AttrValue.format (·.isNone)).empty pair = pair := by
  obtain ⟨name, value⟩ := pair
  have key : (if (name == "") = true then "" else name) = name := by
    split
    · next unset => exact (eq_of_beq unset).symm
    · rfl
  have content : (if value.isNone = true then none else AttrValue.format.overlay none value) =
      value := by
    rw [AttrValue.overlay_eq, AttrValue.empty_merge]
    cases value <;> rfl
  exact Prod.ext key content

theorem NodeDef.overlay_eq (first second : NodeDef) :
    NodeDef.format.overlay first second = first.merge second := by
  have attrs : second.attrs.toList.map ((binding 5 AttrValue.format (·.isNone)).overlay
      (binding 5 AttrValue.format (·.isNone)).empty) = second.attrs.toList := by
    rw [funext AttrValue.overlay_binding, List.map_id']
  simp [NodeDef.format, structured, both, omitting, scalar, repeated, Wire.Format.map, attrs,
    NodeDef.merge, latest, KeyMap.union]

theorem NodeDef.empty_merge (node : NodeDef) : merge {} node = node := by
  simp [merge, latest_unset, KeyMap.empty_union]

/-- Records of attributes are taken up into the attributes. -/
theorem NodeDef.acceptAll_attrs {depth : Nat} {records : List Record}
    (attrs : ∀ record ∈ records, record.number = 5) (node : NodeDef) :
    NodeDef.format.acceptAll depth records node =
      ((Wire.Format.map 5 AttrValue.format (·.isNone)).acceptAll depth records node.attrs).map
        fun attrs => { node with attrs } := by
  have foreign : ∀ number ∈ [1, 2, 3, 4], ∀ record ∈ records, record.number ∉ [number] := by
    intro number field record member same
    rw [attrs record member, List.mem_singleton] at same
    subst same
    exact absurd field (by decide)
  rw [NodeDef.format, acceptAll_structured (fun _ => rfl) (fun _ => rfl),
    acceptAll_both_second (foreign 1 (by decide)), acceptAll_both_second (foreign 2 (by decide)),
    acceptAll_both_second (foreign 3 (by decide)), acceptAll_both_second (foreign 4 (by decide))]
  cases (Wire.Format.map 5 AttrValue.format (·.isNone)).acceptAll depth records node.attrs <;> rfl

/-- Merging does not depend on the order in which the attributes are written. -/
theorem NodeDef.merge_encodeInOrder {node : NodeDef} {attrs : List (String × Option AttrValue)}
    (perm : attrs.Perm node.attrs.toList)
    (fits : (node.encodeInOrder attrs).length < 9223372036854775808) {depth : Nat}
    (deep : 6 ≤ depth) (present : NodeDef) :
    NodeDef.format.merge depth present (node.encodeInOrder attrs) =
      some (present.merge node) := by
  let plain : NodeDef := { node with attrs := .empty }
  let bindings := attrs.flatMap (binding 5 AttrValue.format (·.isNone)).records
  have parts : node.encodeInOrder attrs =
      (NodeDef.format.records plain ++ bindings).flatMap Record.write := by
    rw [List.flatMap_append, List.flatMap_assoc]
    rfl
  have plainFits : NodeDef.format.Fits plain := by
    simp only [encodeInOrder, List.length_append] at fits
    simp only [Fits, plain]
    omega
  have bindingsFit : (repeated (binding 5 AttrValue.format (·.isNone))).Fits attrs := by
    rw [parts, List.flatMap_append, List.length_append] at fits
    simp only [Fits, encode, repeated, bindings] at fits ⊢
    omega
  have whole : Whole (binding 5 AttrValue.format (·.isNone)) 6 :=
    binding_whole AttrValue.format_faithful
  have bindingsWritten := bindings_written whole bindingsFit
  have numbers : ∀ record ∈ bindings, record.number = 5 := fun record member =>
    List.mem_singleton.mp (bindingsWritten record member).1
  have written : ∀ record ∈ NodeDef.format.records plain ++ bindings,
      record.number ∈ NodeDef.format.numbers ∧ record.Writable NodeDef.format.blocks := by
    intro record member
    rcases List.mem_append.mp member with member | member
    · exact NodeDef.format_faithful.written plainFits record member
    · refine ⟨?_, (bindingsWritten record member).2⟩
      rw [numbers record member]
      decide
  have pairs : attrs.map ((binding 5 AttrValue.format (·.isNone)).overlay
      (binding 5 AttrValue.format (·.isNone)).empty) = attrs := by
    rw [funext AttrValue.overlay_binding, List.map_id']
  have nodup : (attrs.map Prod.fst).Nodup :=
    (perm.map Prod.fst).nodup_iff.mpr node.attrs.keys_nodup
  rw [parts, merge_write written, acceptAll_append,
    NodeDef.format_faithful.taken plainFits deep, NodeDef.overlay_eq, Option.bind_eq_bind,
    Option.bind_some, acceptAll_attrs numbers, acceptAll_bindings whole deep bindingsFit, pairs,
    KeyMap.insertAll_perm _ nodup perm]
  rfl

end TensorFlow

namespace Onnx

def Attribute.merge (first second : Attribute) : Attribute where
  name := latest "" first.name second.name
  float := if second.float.isZero then first.float else second.float
  int := latest 0 first.int second.int
  bytes := latest [] first.bytes second.bytes
  floats := first.floats ++ second.floats
  ints := first.ints ++ second.ints
  strings := first.strings ++ second.strings
  docString := latest "" first.docString second.docString
  type := latest 0 first.type second.type
  refName := latest "" first.refName second.refName

/-- The attribute as its encoding gives it back: with a zero for a negative zero. -/
def Attribute.settled (attr : Attribute) : Attribute :=
  { attr with float := if attr.float = ⟨0x80000000⟩ then ⟨0⟩ else attr.float }

def Node.merge (first second : Node) : Node where
  inputs := first.inputs ++ second.inputs
  outputs := first.outputs ++ second.outputs
  name := latest "" first.name second.name
  opType := latest "" first.opType second.opType
  attributes := first.attributes ++ second.attributes.map Attribute.settled
  docString := latest "" first.docString second.docString
  domain := latest "" first.domain second.domain

theorem Attribute.overlay_eq (first second : Attribute) :
    Attribute.format.overlay first second = first.merge second := by
  simp [Attribute.format, structured, both, omitting, scalar, repeated, packed, Attribute.merge,
    latest]

theorem Attribute.empty_merge (attr : Attribute) : merge {} attr = attr.settled := by
  have float : (if attr.float.isZero = true then (⟨0⟩ : Binary32) else attr.float) =
      if attr.float = ⟨0x80000000⟩ then ⟨0⟩ else attr.float := by
    by_cases positive : attr.float = ⟨0⟩
    · simp [Binary32.isZero_iff, positive]
    · simp [Binary32.isZero_iff, positive]
  simp [merge, settled, latest_unset, float]

theorem Attribute.overlay_empty (attr : Attribute) :
    Attribute.format.overlay Attribute.format.empty attr = attr.settled :=
  (overlay_eq _ attr).trans attr.empty_merge

theorem Node.overlay_eq (first second : Node) :
    Node.format.overlay first second = first.merge second := by
  have attributes : Attribute.format.overlay Attribute.format.empty = Attribute.settled :=
    funext Attribute.overlay_empty
  simp [Node.format, structured, both, omitting, scalar, repeated, message, attributes, Node.merge,
    latest]

end Onnx

namespace MessageType

/-- The second message put over the first one. -/
def merge : (type : MessageType) → (first second : type.Value) → type.Value
  | dim => TensorFlow.Dim.merge
  | tensorShape => TensorFlow.TensorShape.merge
  | tensorProto => TensorFlow.TensorProto.merge
  | listValue => TensorFlow.ListValue.merge
  | attrValue => TensorFlow.AttrValue.merge
  | nodeDef => TensorFlow.NodeDef.merge
  | onnxAttribute => Onnx.Attribute.merge
  | onnxNode => Onnx.Node.merge

/-- A message as its encoding gives it back. -/
def settled : (type : MessageType) → type.Value → type.Value
  | onnxAttribute, attr => attr.settled
  | onnxNode, node => { node with attributes := node.attributes.map Onnx.Attribute.settled }
  | dim, value => value
  | tensorShape, value => value
  | tensorProto, value => value
  | listValue, value => value
  | attrValue, value => value
  | nodeDef, value => value

theorem overlay_eq (type : MessageType) (first second : type.Value) :
    type.format.overlay first second = type.merge first second := by
  cases type with
  | dim => exact TensorFlow.Dim.overlay_eq first second
  | tensorShape => exact TensorFlow.TensorShape.overlay_eq first second
  | tensorProto => exact TensorFlow.TensorProto.overlay_eq first second
  | listValue => exact TensorFlow.ListValue.overlay_eq first second
  | attrValue => exact TensorFlow.AttrValue.overlay_eq first second
  | nodeDef => exact TensorFlow.NodeDef.overlay_eq first second
  | onnxAttribute => exact Onnx.Attribute.overlay_eq first second
  | onnxNode => exact Onnx.Node.overlay_eq first second

theorem empty_merge (type : MessageType) (value : type.Value) :
    type.merge type.format.empty value = type.settled value := by
  cases type with
  | dim => exact TensorFlow.Dim.empty_merge value
  | tensorShape => exact TensorFlow.TensorShape.empty_merge value
  | tensorProto => exact TensorFlow.TensorProto.empty_merge value
  | listValue => exact TensorFlow.ListValue.empty_merge value
  | attrValue => exact TensorFlow.AttrValue.empty_merge value
  | nodeDef => exact TensorFlow.NodeDef.empty_merge value
  | onnxAttribute => exact Onnx.Attribute.empty_merge value
  | onnxNode => simp [merge, settled, Onnx.Node.merge, format, Onnx.Node.format, structured, both,
      omitting, scalar, repeated, Scalar.text, latest_unset]

theorem update_encode (type : MessageType) (value : type.Value)
    (fits : type.format.Fits value) (present : type.Value) :
    type.format.update present (type.format.encode value) = some (type.merge present value) := by
  rw [← overlay_eq]
  exact type.format_faithful.merge_encode fits (by decide) present

theorem update_of_encodes {type : MessageType} {value : type.Value} {bs : Bytes}
    (encodes : type.Encodes value bs) (fits : bs.length < 9223372036854775808)
    (present : type.Value) :
    type.format.update present bs = some (type.merge present value) := by
  cases type with
  | nodeDef =>
    obtain ⟨attrs, perm, rfl⟩ := encodes
    exact TensorFlow.NodeDef.merge_encodeInOrder perm fits (by decide) present
  | _ =>
    obtain rfl := encodes
    exact update_encode _ value fits present

/-- Merging an encoding of a message into a message of the type succeeds, whatever order its
attributes are written in, and puts the encoded message over the one present. Decoding it gives the
message itself, but for negative zeros in ONNX attributes. -/
theorem update_encoding (type : MessageType) (present value : type.Value) {bs : Bytes}
    (encodes : type.Encodes value bs) (fits : bs.length < 9223372036854775808) :
    type.format.update present bs = some (type.merge present value) ∧
      type.format.decode bs = some (type.settled value) := by
  refine ⟨update_of_encodes encodes fits present, ?_⟩
  rw [← empty_merge]
  exact update_of_encodes encodes fits type.format.empty

/-- A node with two attributes, which are written in descending order of their names, is put over
one with another attribute. -/
theorem update_encoding_descending :
    let axis : TensorFlow.NodeDef :=
      { name := "axis", op := "Const"
        attrs := .ofList [("dtype", some (.type 3)), ("value", some (.tensor { ints := [-1] }))] }
    let bs := axis.encodeInOrder axis.attrs.toList.reverse
    let present : TensorFlow.NodeDef := { name := "a", attrs := .ofList [("T", none)] }
    nodeDef.Encodes axis bs ∧ bs.length < 9223372036854775808 ∧
      nodeDef.format.update present bs = some (nodeDef.merge present axis) ∧
      nodeDef.format.decode bs = some axis := by
  intro axis bs present
  have encodes : nodeDef.Encodes axis bs := ⟨_, List.reverse_perm _, rfl⟩
  have fits : bs.length < 9223372036854775808 := by decide +kernel
  exact ⟨encodes, fits, update_encoding nodeDef present axis encodes fits⟩

/-- The negative zero of an attribute is lost: what is read back has the positive one. -/
theorem decode_encode_negative_zero :
    let node : Onnx.Node := { attributes := [{ float := ⟨0x80000000⟩ }] }
    Onnx.Node.format.decode (Onnx.Node.format.encode node) ≠ some node := by
  decide +kernel

end MessageType
end NodeLowering
