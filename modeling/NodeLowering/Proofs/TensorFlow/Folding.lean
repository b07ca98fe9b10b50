import NodeLowering.Proofs.Tensor.Details
import NodeLowering.Proofs.TensorFlow.Outcome
import NodeLowering.TensorFlow.Attribute

/-! Which nodes are folded into constant tensors. What is asked of a node is asked in turn: that it
is a constant, that it names a type, that it holds a value, and that the value is of the type. The
first that fails is what is reported. -/
namespace NodeLowering.TensorFlow

theorem TensorProto.addressable_of_toContent {tensor : TensorProto} {content : Content}
    (ok : tensor.toContent = .ok content) : content.array.Addressable := by
  obtain ⟨type, -, fills⟩ := toContent_isOk_iff.mp ⟨content, ok⟩
  have shape : content.shape = tensor.dims := (holds_of_toContent ok).shape
  have bound : Layout.positiveVolume tensor.dims ≤ StridedArray.maxSize := by
    cases fills with
    | bytes _ _ _ addressable => exact addressable
    | listed _ _ _ _ addressable => exact addressable
    | repeated _ _ _ addressable => exact addressable
  rwa [← shape] at bound

namespace NodeDef
variable {node : NodeDef} {attr : String}

/-- The node has an attribute of the name, and it has the value. -/
def Gives (node : NodeDef) (attr : String) (value : AttrValue) : Prop :=
  node.attrs.find? attr = some (some value)

/-- The attribute is the code of the type. -/
def GivesType (node : NodeDef) (attr : String) (type : DatumType) : Prop :=
  ∃ code, node.Gives attr (.type code) ∧ Coded code type

/-- The attribute is a tensor message with the content. -/
def GivesContent (node : NodeDef) (attr : String) (content : Content) : Prop :=
  ∃ tensor, node.Gives attr (.tensor tensor) ∧ tensor.toContent = .ok content

/-- Why an attribute gives no type. One that is missing, that has no value or that has a value of
another kind is all the same. -/
inductive LacksType (node : NodeDef) (attr : String) : NodeError → Prop
  | absent (none : ∀ code, ¬ node.Gives attr (.type code)) :
      LacksType node attr (.lacksDatumType node.name node.op attr)
  | uncoded (code : Int32) (given : node.Gives attr (.type code))
      (unknown : ∀ dtype : DataType, dtype.code ≠ code) :
      LacksType node attr (.invalidType node.name code)
  | foreign (dtype : DataType) (given : node.Gives attr (.type dtype.code))
      (none : ∀ type, ¬ Coded dtype.code type) : LacksType node attr (.noDatumType dtype)

/-- Why an attribute gives no content. -/
inductive LacksContent (node : NodeDef) (attr : String) : Failure NodeError → Prop
  | absent (none : ∀ tensor, ¬ node.Gives attr (.tensor tensor)) :
      LacksContent node attr (.refused (.lacksTensor node.name node.op attr))
  | unreadable (tensor : TensorProto) (given : node.Gives attr (.tensor tensor))
      (cause : ContentError) (refused : tensor.toContent = .error (.refused cause)) :
      LacksContent node attr (.refused (.tensor node.name attr cause))
  | overfilled (tensor : TensorProto) (given : node.Gives attr (.tensor tensor))
      (type : DatumType) (describes : tensor.Describes type) (overfills : tensor.Overfills type) :
      LacksContent node attr .aborted

/-- Why a node is not folded into a constant tensor. A reason counts only if nothing that comes
before it is lacking. -/
inductive Unfolded (node : NodeDef) : Failure NodeError → Prop
  | notConst (other : node.op ≠ "Const") :
      Unfolded node (.refused (.notConst node.name node.op))
  | untyped (const : node.op = "Const") {reason : NodeError}
      (lacks : node.LacksType "dtype" reason) : Unfolded node (.refused reason)
  | valueless (const : node.op = "Const") {type : DatumType}
      (typed : node.GivesType "dtype" type) {failure : Failure NodeError}
      (lacks : node.LacksContent "value" failure) : Unfolded node failure
  | otherType (const : node.op = "Const") {type : DatumType}
      (typed : node.GivesType "dtype" type) {content : Content}
      (valued : node.GivesContent "value" content) (different : content.type ≠ type) :
      Unfolded node (.refused (.otherType node.name type))

/-! Attributes -/

theorem attr?_eq_some_iff {value : AttrValue} :
    node.attr? attr = some value ↔ node.Gives attr value :=
  Option.join_eq_some_iff

theorem GivesType.datumType_eq {type : DatumType} (gives : node.GivesType attr type) :
    node.datumType attr = .ok type := by
  obtain ⟨code, given, coded⟩ := gives
  obtain ⟨dtype, read, has⟩ := coded_iff.mp coded
  simp only [datumType, datumType?, attr?_eq_some_iff.mpr given, read, DataType.toDatumType, has]
  rfl

theorem LacksType.datumType_eq {reason : NodeError} (lacks : node.LacksType attr reason) :
    node.datumType attr = .error reason := by
  cases lacks with
  | absent none =>
    have other : node.datumType? attr = .ok Option.none := by
      rw [datumType?]
      split
      · next code given => exact absurd (attr?_eq_some_iff.mp given) (none code)
      · rfl
    rw [datumType, other]
    rfl
  | uncoded code given unknown =>
    have none : DataType.ofCode? code = none := by
      cases found : DataType.ofCode? code with
      | none => rfl
      | some dtype => exact absurd (DataType.ofCode?_eq_some_iff.mp found) (unknown dtype)
    simp only [datumType, datumType?, attr?_eq_some_iff.mpr given, none]
    rfl
  | foreign dtype given none =>
    have elementless : dtype.datumType? = Option.none :=
      Option.eq_none_iff_forall_ne_some.mpr fun type has => none type (coded_code_iff.mpr has)
    simp only [datumType, datumType?, attr?_eq_some_iff.mpr given, DataType.ofCode?_code,
      DataType.toDatumType, elementless]
    rfl

theorem gives_or_lacks_type (node : NodeDef) (attr : String) :
    (∃ type, node.GivesType attr type) ∨ ∃ reason, node.LacksType attr reason := by
  by_cases kind : ∃ code, node.Gives attr (.type code)
  · obtain ⟨code, given⟩ := kind
    by_cases coded : ∃ dtype : DataType, dtype.code = code
    · obtain ⟨dtype, rfl⟩ := coded
      by_cases typed : ∃ type, Coded dtype.code type
      · obtain ⟨type, own⟩ := typed
        exact .inl ⟨type, dtype.code, given, own⟩
      · exact .inr ⟨_, .foreign dtype given (not_exists.mp typed)⟩
    · exact .inr ⟨_, .uncoded code given (not_exists.mp coded)⟩
  · exact .inr ⟨_, .absent (not_exists.mp kind)⟩

theorem GivesContent.tensor_eq {content : Content} (gives : node.GivesContent attr content) :
    node.tensor attr = .ok content := by
  obtain ⟨tensor, given, ok⟩ := gives
  simp only [NodeDef.tensor, tensor?, attr?_eq_some_iff.mpr given, ok]
  rfl

theorem LacksContent.tensor_eq {failure : Failure NodeError}
    (lacks : node.LacksContent attr failure) : node.tensor attr = .error failure := by
  cases lacks with
  | absent none =>
    have other : node.tensor? attr = .ok Option.none := by
      rw [tensor?]
      split
      · next tensor given => exact absurd (attr?_eq_some_iff.mp given) (none tensor)
      · rfl
    rw [NodeDef.tensor, other]
    rfl
  | unreadable tensor given cause refused =>
    simp only [NodeDef.tensor, tensor?, attr?_eq_some_iff.mpr given, refused]
    rfl
  | overfilled tensor given type describes overfills =>
    have aborted := TensorProto.toContent_eq_aborted_iff.mpr ⟨type, describes, overfills⟩
    simp only [NodeDef.tensor, tensor?, attr?_eq_some_iff.mpr given, aborted]
    rfl

theorem gives_or_lacks_content (node : NodeDef) (attr : String) :
    (∃ content, node.GivesContent attr content) ∨ ∃ failure, node.LacksContent attr failure := by
  by_cases kind : ∃ tensor, node.Gives attr (.tensor tensor)
  · obtain ⟨tensor, given⟩ := kind
    cases read : tensor.toContent with
    | ok content => exact .inl ⟨content, tensor, given, read⟩
    | error failure =>
      cases failure with
      | refused cause => exact .inr ⟨_, .unreadable tensor given cause read⟩
      | aborted =>
        obtain ⟨type, describes, overfills⟩ := TensorProto.toContent_eq_aborted_iff.mp read
        exact .inr ⟨_, .overfilled tensor given type describes overfills⟩
  · exact .inr ⟨_, .absent (not_exists.mp kind)⟩

/-! Nodes -/

/-- The tensor of a constant. -/
def folded (node : NodeDef) (content : Content) : Tensor where
  name := node.name ++ ":0"
  sourceOps := [node.name]
  shape := some content.dims
  dtype := some content.type
  content := some content

theorem toConst_of_const (const : node.op = "Const") : node.toConst = (do
    let type ← (node.datumType "dtype").mapError .refused
    let content ← node.tensor "value"
    if content.type ≠ type then throw (.refused (.otherType node.name type))
    return node.folded content) := by
  rw [toConst, if_neg (not_not_intro const)]
  rfl

theorem toConst_of_given (const : node.op = "Const") {type : DatumType}
    (typed : node.GivesType "dtype" type) {content : Content}
    (valued : node.GivesContent "value" content) : node.toConst =
      if content.type = type then .ok (node.folded content)
      else .error (.refused (.otherType node.name type)) := by
  rw [toConst_of_const const, typed.datumType_eq, valued.tensor_eq]
  by_cases same : content.type = type
  · rw [if_pos same]
    change (if content.type ≠ type then _ else _) = _
    rw [if_neg (not_not_intro same)]
    rfl
  · rw [if_neg same]
    change (if content.type ≠ type then _ else _) = _
    rw [if_pos same]
    rfl

theorem Unfolded.toConst_eq {failure : Failure NodeError} (unfolded : node.Unfolded failure) :
    node.toConst = .error failure := by
  cases unfolded with
  | notConst other =>
    rw [toConst, if_pos other]
    rfl
  | untyped const lacks =>
    rw [toConst_of_const const, lacks.datumType_eq]
    rfl
  | valueless const typed lacks =>
    rw [toConst_of_const const, typed.datumType_eq, lacks.tensor_eq]
    rfl
  | otherType const typed valued different =>
    rw [toConst_of_given const typed valued, if_neg different]

/-- A node is a constant in every respect, or there is a first one in which it is not. -/
theorem folded_or_unfolded (node : NodeDef) :
    (∃ content, node.op = "Const" ∧ node.GivesType "dtype" content.type ∧
      node.GivesContent "value" content) ∨ ∃ failure, node.Unfolded failure := by
  by_cases const : node.op = "Const"
  · rcases node.gives_or_lacks_type "dtype" with ⟨type, typed⟩ | ⟨reason, lacks⟩
    · rcases node.gives_or_lacks_content "value" with ⟨content, valued⟩ | ⟨failure, lacks⟩
      · by_cases same : content.type = type
        · exact .inl ⟨content, const, same ▸ typed, valued⟩
        · exact .inr ⟨_, .otherType const typed valued same⟩
      · exact .inr ⟨failure, .valueless const typed lacks⟩
    · exact .inr ⟨_, .untyped const lacks⟩
  · exact .inr ⟨_, .notConst const⟩

theorem toConst_eq_ok_iff {tensor : Tensor} : node.toConst = .ok tensor ↔
    ∃ content, node.op = "Const" ∧ node.GivesType "dtype" content.type ∧
      node.GivesContent "value" content ∧ tensor = node.folded content := by
  constructor
  · intro ok
    rcases node.folded_or_unfolded with ⟨content, const, typed, valued⟩ | ⟨failure, unfolded⟩
    · rw [toConst_of_given const typed valued, if_pos rfl] at ok
      exact ⟨content, const, typed, valued, (Except.ok.inj ok).symm⟩
    · cases ok.symm.trans unfolded.toConst_eq
  · rintro ⟨content, const, typed, valued, rfl⟩
    rw [toConst_of_given const typed valued, if_pos rfl]

theorem toConst_eq_error_iff {failure : Failure NodeError} :
    node.toConst = .error failure ↔ node.Unfolded failure := by
  constructor
  · intro error
    rcases node.folded_or_unfolded with ⟨content, const, typed, valued⟩ | ⟨failure, unfolded⟩
    · cases error.symm.trans (toConst_eq_ok_iff.mpr ⟨content, const, typed, valued, rfl⟩)
    · cases error.symm.trans unfolded.toConst_eq
      exact unfolded
  · exact Unfolded.toConst_eq

theorem GivesContent.toInt_dims {content : Content} (gives : node.GivesContent attr content) :
    content.dims.map (·.toInt) = content.shape.map Int.ofNat := by
  obtain ⟨tensor, -, read⟩ := gives
  exact content.toInt_dims (TensorProto.addressable_of_toContent read)

/-- Only an overfilled shape has no reason that could be told, and it is met with only if the node
is a constant and names a type. -/
theorem unfolded_aborted_iff : node.Unfolded .aborted ↔
    node.op = "Const" ∧ (∃ type, node.GivesType "dtype" type) ∧
      ∃ tensor type, node.Gives "value" (.tensor tensor) ∧ tensor.Describes type ∧
        tensor.Overfills type := by
  constructor
  · intro unfolded
    cases unfolded with
    | valueless const typed lacks =>
      cases lacks with
      | overfilled tensor given type describes overfills =>
        exact ⟨const, ⟨_, typed⟩, tensor, type, given, describes, overfills⟩
  · rintro ⟨const, ⟨type, typed⟩, tensor, type', given, describes, overfills⟩
    exact .valueless const typed (.overfilled tensor given type' describes overfills)

theorem toConst_congr {other : NodeDef} (name : other.name = node.name) (op : other.op = node.op)
    (dtype : other.attr? "dtype" = node.attr? "dtype")
    (value : other.attr? "value" = node.attr? "value") : other.toConst = node.toConst := by
  simp only [toConst, datumType, datumType?, NodeDef.tensor, tensor?, name, op, dtype, value]

/-- A node is folded exactly if it is a constant that names a type and holds a content of this type.
The tensor has the name of the node's first output, comes from the node and goes nowhere, and
matches the content. A node that is not folded ends as the first thing that it lacks tells; the only
end without a reason is a value that overfills its shape. All this depends on the name, the operator
and the two attributes only. -/
theorem toConst_folds (node : NodeDef) :
    ((∃ tensor, node.toConst = .ok tensor) ↔ node.op = "Const" ∧ ∃ type content,
      node.GivesType "dtype" type ∧ node.GivesContent "value" content ∧ content.type = type) ∧
    (∀ tensor, node.toConst = .ok tensor → tensor.name = node.name ++ ":0" ∧
      tensor.sourceOps = [node.name] ∧ tensor.destOps = [] ∧
      ∃ content, node.GivesContent "value" content ∧ tensor.Matches content ∧
        content.dims.map (·.toInt) = content.shape.map Int.ofNat) ∧
    (∀ failure, node.toConst = .error failure ↔ node.Unfolded failure) ∧
    (node.toConst = .error .aborted ↔ node.op = "Const" ∧
      (∃ type, node.GivesType "dtype" type) ∧
      ∃ tensor type, node.Gives "value" (.tensor tensor) ∧ tensor.Describes type ∧
        tensor.Overfills type) ∧
    ∀ other : NodeDef, other.name = node.name → other.op = node.op →
      other.attr? "dtype" = node.attr? "dtype" → other.attr? "value" = node.attr? "value" →
        other.toConst = node.toConst := by
  refine ⟨?_, ?_, fun _ => toConst_eq_error_iff, toConst_eq_error_iff.trans unfolded_aborted_iff,
    fun _ => toConst_congr⟩
  · constructor
    · rintro ⟨tensor, ok⟩
      obtain ⟨content, const, typed, valued, -⟩ := toConst_eq_ok_iff.mp ok
      exact ⟨const, _, content, typed, valued, rfl⟩
    · rintro ⟨const, _, content, typed, valued, rfl⟩
      exact ⟨_, toConst_eq_ok_iff.mpr ⟨content, const, typed, valued, rfl⟩⟩
  · intro tensor ok
    obtain ⟨content, -, -, valued, rfl⟩ := toConst_eq_ok_iff.mp ok
    exact ⟨rfl, rfl, rfl, content, valued, ⟨rfl, rfl, rfl⟩, valued.toInt_dims⟩

/-- A number for two places, in a node with another attribute and other fields: nothing is made of
them. With a code of no type the value is not even looked at. -/
theorem toConst_folds_broadcast :
    let shape : TensorShape := ⟨[⟨2, "n"⟩], false⟩
    let value : TensorProto := { dtype := 9, shape := some shape, int64s := [7] }
    let node : NodeDef :=
      { name := "axis", op := "Const"
        attrs := .ofList [("dtype", some (.type 9)), ("value", some (.tensor value))] }
    let other : NodeDef :=
      { node with inputs := ["^x"], device := "cpu", attrs := node.attrs.insert "T" none }
    let untyped : NodeDef :=
      { node with attrs := .ofList [("dtype", some (.type 15)), ("value", some (.int 1))] }
    (∃ tensor, node.toConst = .ok tensor ∧ tensor.name = "axis:0") ∧
      other.toConst = node.toConst ∧
      untyped.toConst = .error (.refused (.invalidType "axis" 15)) := by
  intro shape value node other untyped
  obtain ⟨ok, named, -, -, same⟩ := toConst_folds node
  obtain ⟨-, -, error, -, -⟩ := toConst_folds untyped
  have typed : node.GivesType "dtype" .i64 := by
    refine ⟨9, ?_, .int64⟩
    change node.attrs.find? "dtype" = _
    decide +kernel
  have valued : node.GivesContent "value" ⟨.i64, .fill [2] 7⟩ := by
    refine ⟨value, ?_, rfl⟩
    change node.attrs.find? "value" = _
    decide +kernel
  have lacks : untyped.LacksType "dtype" (.invalidType "axis" 15) := by
    refine .uncoded 15 ?_ fun dtype => ?_
    · change untyped.attrs.find? "dtype" = _
      decide +kernel
    · cases dtype <;> decide
  obtain ⟨tensor, folds⟩ := ok.mpr ⟨rfl, _, _, typed, valued, rfl⟩
  refine ⟨⟨tensor, folds, (named tensor folds).1⟩, same other rfl rfl ?_ ?_, ?_⟩
  · decide +kernel
  · decide +kernel
  · exact (error _).mpr (.untyped rfl lacks)

end NodeDef
end NodeLowering.TensorFlow
