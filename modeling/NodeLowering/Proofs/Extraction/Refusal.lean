import NodeLowering.Proofs.Extraction.Axis

/-! Extraction is refused for operators of types that are not registered, and for ONNX nodes whose
first attribute is missing or no integer. It is refused before anything is done to the operator. -/
namespace NodeLowering

namespace Onnx

/-- The first attribute is there, its type is that of integers or undefined, and it has the
value. -/
def Node.Gives (node : Node) (axis : Int64) : Prop :=
  ∃ attr rest, node.attributes = attr :: rest ∧
    (attr.type = AttributeType.int.code ∨ attr.type = AttributeType.undefined.code) ∧
    attr.int = axis

theorem Attribute.toInt_eq_ok_iff {attr : Attribute} {axis : Int64} :
    attr.toInt = .ok axis ↔
      (attr.type = AttributeType.int.code ∨ attr.type = AttributeType.undefined.code) ∧
        attr.int = axis := by
  have read := attr.toInt_eq
  constructor
  · intro ok
    rw [ok] at read
    split at read
    · next integer => exact ⟨integer, (Option.some.inj read).symm⟩
    · contradiction
  · rintro ⟨integer, rfl⟩
    rw [if_pos integer] at read
    cases result : attr.toInt with
    | ok axis =>
      rw [result] at read
      exact congrArg Except.ok (Option.some.inj read)
    | error cause =>
      rw [result] at read
      contradiction

theorem Node.read_eq_ok_iff {node : Node} {axis : Int64} :
    node.firstAttribute >>= Attribute.toInt = .ok axis ↔ node.Gives axis := by
  rw [firstAttribute, Gives]
  cases node.attributes with
  | nil =>
    constructor
    · intro ok
      cases ok
    · rintro ⟨attr, rest, first, _⟩
      cases first
  | cons attr rest =>
    refine Attribute.toInt_eq_ok_iff.trans ⟨fun given => ⟨attr, rest, rfl, given⟩, ?_⟩
    rintro ⟨attr', rest', first, given⟩
    obtain ⟨rfl, rfl⟩ := List.cons.inj first
    exact given

theorem Node.Gives.unique {node : Node} {axis axis' : Int64} (gives : node.Gives axis)
    (gives' : node.Gives axis') : axis = axis' :=
  Except.ok.inj ((read_eq_ok_iff.mpr gives).symm.trans (read_eq_ok_iff.mpr gives'))

end Onnx

/-- There is an axis to be read from the node, or none has to be. -/
def SourceNode.Readable : SourceNode → Prop
  | onnx node => ∃ axis, node.Gives axis
  | tensorflow _ | unsupported _ => True

/-- Why attributes of an operator of a type are not extracted from a node. -/
inductive Register.Refuses (register : Register) (opType : String) : SourceNode → Prop
  | unregistered (node : SourceNode) (unlisted : opType ∉ register.keys) :
      Refuses register opType node
  | noAttribute (node : Onnx.Node) (none : node.attributes = []) :
      Refuses register opType (.onnx node)
  | otherAttribute (node : Onnx.Node) (attr : Onnx.Attribute) (rest : List Onnx.Attribute)
      (first : node.attributes = attr :: rest)
      (notInt : attr.type ≠ Onnx.AttributeType.int.code)
      (notUndefined : attr.type ≠ Onnx.AttributeType.undefined.code) :
      Refuses register opType (.onnx node)

/-- Work that does nothing to the operator and takes no handles before it fails. -/
def Working.Atomic {ε : Type} (work : Working ε Unit) : Prop :=
  ∀ w reason, (work.run.run w).1 = .error reason →
    (work.run.run w).2.operator = w.operator ∧ (work.run.run w).2.supply = w.supply

theorem Softmax.effect_eq_ok_iff (node : SourceNode) (op : Operator Tensor) :
    (effect node op).result = .ok () ↔ node.Readable := by
  cases node with
  | tensorflow node | unsupported framework => exact ⟨fun _ => trivial, fun _ => rfl⟩
  | onnx node =>
    simp only [effect, SourceNode.Readable, ← Onnx.Node.read_eq_ok_iff]
    cases node.firstAttribute >>= Onnx.Attribute.toInt with
    | ok axis => exact ⟨fun _ => ⟨axis, rfl⟩, fun _ => rfl⟩
    | error cause =>
      constructor
      · intro ok
        cases ok
      · rintro ⟨axis, read⟩
        cases read

/-- What fails does nothing to the operator and takes no handles. -/
theorem Softmax.kept_of_error {node : SourceNode} {op : Operator Tensor}
    {cause : ExtractionError} (failed : (effect node op).result = .error cause) :
    (effect node op).operator = op ∧
      ∀ supply inputs, held supply node inputs = ⟨inputs, supply⟩ := by
  cases node with
  | tensorflow node | unsupported framework => cases failed
  | onnx node =>
    refine ⟨?_, fun _ _ => rfl⟩
    simp only [effect] at failed ⊢
    cases read : node.firstAttribute >>= Onnx.Attribute.toInt with
    | ok axis =>
      rw [read] at failed
      cases failed
    | error cause => rfl

theorem Workspace.after_kept {ε : Type} {w : Workspace} {effect : Effect ε}
    (kept : effect.operator = w.operator.contents) :
    (w.after effect ⟨w.operator.inputs, w.supply⟩).operator = w.operator ∧
      (w.after effect ⟨w.operator.inputs, w.supply⟩).supply = w.supply := by
  rw [after, kept]
  exact ⟨rfl, rfl⟩

namespace Extractor

theorem effect_eq_ok_iff (extractor : Extractor) (node : SourceNode) (op : Operator Tensor) :
    (extractor.effect node op).result = .ok () ↔ node.Readable := by
  cases extractor with
  | softmax => exact Softmax.effect_eq_ok_iff node op

theorem kept_of_error (extractor : Extractor) {node : SourceNode} {op : Operator Tensor}
    {cause : ExtractionError} (failed : (extractor.effect node op).result = .error cause) :
    (extractor.effect node op).operator = op ∧
      ∀ supply inputs, extractor.held supply node inputs = ⟨inputs, supply⟩ := by
  cases extractor with
  | softmax => exact Softmax.kept_of_error failed

theorem run_atomic (extractor : Extractor) (node : SourceNode) :
    Working.Atomic (extractor.run node) := by
  intro w reason failed
  rw [run_run] at failed ⊢
  obtain ⟨kept, held⟩ := extractor.kept_of_error failed
  rw [held]
  exact Workspace.after_kept kept

end Extractor

namespace Register

theorem effect_eq_ok_iff (register : Register) (node : SourceNode) (op : Operator Tensor) :
    (register.effect node op).result = .ok () ↔ op.opType ∈ register.keys ∧ node.Readable := by
  rw [effect, KeyMap.mem_keys]
  cases register.find? op.opType with
  | none =>
    constructor
    · intro ok
      cases ok
    · rintro ⟨listed, _⟩
      cases listed
  | some extractor =>
    rw [← extractor.effect_eq_ok_iff node op]
    dsimp only
    cases (extractor.effect node op).result with
    | ok _ => exact ⟨fun _ => ⟨rfl, rfl⟩, fun _ => rfl⟩
    | error cause =>
      constructor
      · intro ok
        cases ok
      · rintro ⟨_, ok⟩
        cases ok

theorem kept_of_error {register : Register} {node : SourceNode} {op : Operator Tensor}
    {reason : LoweringError} (failed : (register.effect node op).result = .error reason) :
    (register.effect node op).operator = op ∧
      ∀ supply inputs, register.held op.opType supply node inputs = ⟨inputs, supply⟩ := by
  simp only [effect, held] at failed ⊢
  cases found : register.find? op.opType with
  | none => exact ⟨rfl, fun _ _ => rfl⟩
  | some extractor =>
    rw [found] at failed
    dsimp only at failed
    cases result : (extractor.effect node op).result with
    | ok _ =>
      rw [result] at failed
      cases failed
    | error cause => exact extractor.kept_of_error result

theorem extract_atomic (register : Register) (node : SourceNode) :
    Working.Atomic (register.extract node) := by
  intro w reason failed
  rw [run_extract] at failed ⊢
  obtain ⟨kept, held⟩ := kept_of_error failed
  have same : register.held w.operator.opType w.supply node w.operator.inputs = _ := held _ _
  rw [same]
  exact Workspace.after_kept kept

theorem refuses_iff {register : Register} {opType : String} {node : SourceNode} :
    register.Refuses opType node ↔ ¬ (opType ∈ register.keys ∧ node.Readable) := by
  constructor
  · rintro (_ | ⟨node, none⟩ | ⟨node, attr, rest, first, notInt, notUndefined⟩)
      ⟨listed, readable⟩
    · contradiction
    · obtain ⟨axis, attr, rest, first, _⟩ := readable
      cases none.symm.trans first
    · obtain ⟨axis, attr', rest', first', integer, _⟩ := readable
      obtain ⟨rfl, rfl⟩ := List.cons.inj (first.symm.trans first')
      exact integer.elim notInt notUndefined
  · intro unreadable
    by_cases listed : opType ∈ register.keys
    · cases node with
      | tensorflow node | unsupported framework => exact absurd ⟨listed, trivial⟩ unreadable
      | onnx node =>
        cases first : node.attributes with
        | nil => exact .noAttribute node first
        | cons attr rest =>
          have other : ¬ (attr.type = Onnx.AttributeType.int.code ∨
              attr.type = Onnx.AttributeType.undefined.code) :=
            fun integer => unreadable ⟨listed, attr.int, attr, rest, first, integer, rfl⟩
          rw [not_or] at other
          exact .otherAttribute node attr rest first other.1 other.2
    · exact .unregistered node listed

theorem extract_isOk_iff (register : Register) (node : SourceNode) (w : Workspace) :
    ((register.extract node).run.run w).1 = .ok () ↔
      w.operator.opType ∈ register.keys ∧ node.Readable := by
  rw [run_extract]
  exact register.effect_eq_ok_iff node w.operator.contents

theorem extract_error_iff (register : Register) (node : SourceNode) (w : Workspace) :
    (∃ reason, ((register.extract node).run.run w).1 = .error reason) ↔
      register.Refuses w.operator.opType node := by
  rw [refuses_iff, ← register.extract_isOk_iff node w]
  cases ((register.extract node).run.run w).1 with
  | ok _ => exact ⟨nofun, fun failed => absurd rfl failed⟩
  | error reason => exact ⟨fun _ => nofun, fun _ => ⟨reason, rfl⟩⟩

end Register
end NodeLowering
