import NodeLowering.Proofs.Extraction.Effect

/-! The axis that a source gives, apart from how it is computed: an integer, which the fixed widths
that it passes through do not change. -/
namespace NodeLowering

/-- The integer that an element of an integer type stands for. -/
def DatumType.integer? : (type : DatumType) → type.Elem → Option Int
  | u8, x => some x.toNat
  | i8, x => some x.toInt
  | i32, x => some x.toInt
  | i64, x => some x.toInt
  | bool, _ | f32, _ | f64, _ => none

theorem DatumType.toInt_toInt64? (type : DatumType) (x : type.Elem) :
    (type.toInt64? x).map Int64.toInt = type.integer? x := by
  cases type with
  | u8 =>
    have small : x.toNat < 2 ^ 63 := Nat.lt_trans x.toNat_lt (by decide)
    exact congrArg some (Int64.toInt_ofNat_of_lt small)
  | i8 => exact congrArg some (Int8.toInt_toInt64 x)
  | i32 => exact congrArg some (Int32.toInt_toInt64 x)
  | i64 | bool | f32 | f64 => rfl

namespace Content

/-- The integer that the first element in logical order stands for, if there is one and its type is
an integer type. -/
def firstInteger? (content : Content) : Option Int :=
  content.values.head?.bind content.type.integer?

theorem toInt_first? (content : Content) :
    content.first?.map Int64.toInt = content.firstInteger? := by
  rw [first?, firstInteger?]
  cases content.values.head? with
  | none => rfl
  | some x => exact content.type.toInt_toInt64? x

theorem Same.first? {c d : Content} (same : c.Same d) : c.first? = d.first? :=
  congrArg (fun listed : Σ type : DatumType, List type.Elem =>
    listed.2.head? >>= listed.1.toInt64?) same.2

end Content

namespace Onnx

/-- The integer of the first attribute, if the attribute's type is that of integers or undefined. -/
def Node.firstInteger? (node : Node) : Option Int :=
  match node.attributes with
  | attr :: _ =>
      if attr.type = AttributeType.int.code ∨ attr.type = AttributeType.undefined.code then
        some attr.int.toInt
      else none
  | [] => none

theorem AttributeType.code_of_ofCode? {code : Int32} {type : AttributeType}
    (found : ofCode? code = some type) : type.code = code := by
  simpa using List.find?_some found

theorem Attribute.toInt_eq (attr : Attribute) :
    attr.toInt.toOption =
      if attr.type = AttributeType.int.code ∨ attr.type = AttributeType.undefined.code then
        some attr.int
      else none := by
  rw [toInt, attributeType]
  cases found : AttributeType.ofCode? attr.type with
  | none =>
    have known : ∀ type : AttributeType, attr.type ≠ type.code := by
      rintro type same
      rw [same, AttributeType.ofCode?_code] at found
      contradiction
    rw [if_neg (not_or.mpr ⟨known _, known _⟩)]
    rfl
  | some type =>
    rw [← AttributeType.code_of_ofCode? found]
    cases type <;> rfl

theorem Node.firstInteger?_eq (node : Node) :
    (node.firstAttribute >>= Attribute.toInt).toOption.map Int64.toInt = node.firstInteger? := by
  rw [firstAttribute, firstInteger?]
  cases node.attributes with
  | nil => rfl
  | cons attr rest =>
    change attr.toInt.toOption.map Int64.toInt = _
    rw [attr.toInt_eq]
    by_cases integer : attr.type = AttributeType.int.code ∨ attr.type = AttributeType.undefined.code
    · simp only [if_pos integer, Option.map_some]
    · simp only [if_neg integer, Option.map_none]

end Onnx

namespace Softmax

/-- The first element of the second of some inputs, if that has content of an integer type. -/
def secondInteger? (inputs : List Tensor) : Option Int := do
  let axis ← inputs[1]?
  let content ← axis.content
  content.firstInteger?

theorem toInt_constAxis? (inputs : List Tensor) :
    (constAxis? inputs).map Int64.toInt = secondInteger? inputs := by
  rw [constAxis?, secondInteger?]
  cases inputs[1]? with
  | none => rfl
  | some axis =>
    obtain ⟨name, sourceOps, destOps, shape, content, dtype⟩ := axis
    cases content with
    | none => rfl
    | some content => exact content.toInt_first?

/-- What a node gives as axis of an operator whose second input holds an integer, if it does. -/
def contribution? (second? : Option Int) : SourceNode → Option Int
  | .tensorflow _ => second?
  | .onnx node => node.firstInteger?
  | .unsupported _ => none

/-- What the extraction reads as axis, if it gets to read one. -/
def axis? (inputs : List Tensor) : SourceNode → Option Int64
  | .tensorflow _ => constAxis? inputs
  | .onnx node => (node.firstAttribute >>= Onnx.Attribute.toInt).toOption
  | .unsupported _ => none

theorem toInt_axis? (inputs : List Tensor) (node : SourceNode) :
    (axis? inputs node).map Int64.toInt = contribution? (secondInteger? inputs) node := by
  cases node with
  | tensorflow node => exact toInt_constAxis? inputs
  | onnx node => exact node.firstInteger?_eq
  | unsupported framework => rfl

theorem attrs_effect (node : SourceNode) (op : Operator Tensor) :
    (effect node op).operator.attrs =
      withAxis op.attrs ((axis? op.inputs node).getD defaultAxis) := by
  cases node with
  | tensorflow node => rfl
  | onnx node =>
    simp only [effect, axis?]
    cases node.firstAttribute >>= Onnx.Attribute.toInt with
    | ok axis => rfl
    | error cause => rfl
  | unsupported framework => rfl

/-- Attributes have an axis of the given value in place of the one before, or else the same. -/
def AxisIs (before after : KeyMap Attr) : Option Int → Prop
  | some n => ∃ axis : Int64, axis.toInt = n ∧ after.find? "axis" = some (.int axis)
  | none => after.find? "axis" = before.find? "axis"

theorem AxisIs.trans {first second third : KeyMap Attr} {earlier later : Option Int}
    (one : AxisIs first second earlier) (two : AxisIs second third later) :
    AxisIs first third (later.or earlier) := by
  cases later with
  | some n => exact two
  | none =>
    have same : third.find? "axis" = second.find? "axis" := two
    cases earlier with
    | some n =>
      obtain ⟨axis, value, found⟩ := one
      exact ⟨axis, value, same.trans found⟩
    | none => exact same.trans one

theorem axisIs_withAxis (attrs : KeyMap Attr) (axis? : Option Int64) :
    AxisIs attrs (withAxis attrs (axis?.getD defaultAxis))
      ((axis?.map Int64.toInt).filter (· ≠ -1)) := by
  cases axis? with
  | none => rfl
  | some axis =>
    by_cases last : axis = defaultAxis
    · subst last
      rfl
    · have different : axis.toInt ≠ -1 := by
        intro same
        exact last (Int64.toInt_inj.mp same)
      have kept : (some axis.toInt).filter (· ≠ -1) = some axis.toInt :=
        Option.filter_some_pos (decide_eq_true different)
      rw [Option.map_some, kept, Option.getD_some, withAxis, if_neg last]
      exact ⟨axis, rfl, by rw [KeyMap.find?_insert, if_pos rfl]⟩

theorem find?_withAxis {key : String} (other : key ≠ "axis") (attrs : KeyMap Attr)
    (axis : Int64) : (withAxis attrs axis).find? key = attrs.find? key := by
  rw [withAxis]
  split
  · rfl
  · rw [KeyMap.find?_insert, if_neg other]

end Softmax
end NodeLowering
