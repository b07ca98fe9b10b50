import NodeLowering.Proofs.Extraction.Effect
import NodeLowering.Proofs.Tensor.PartialEquivalence

/-! Equality of operators, which compares tensors and not the handles to them, and what extraction
makes of equal operators. Zeros of either sign are equal, but an axis is read from integers only, so
extraction cannot tell equal operators apart. -/
namespace NodeLowering

namespace Operator

/-- No tensor has a NaN. -/
def NaNFree (op : Operator Tensor) : Prop := ∀ t ∈ op.inputs ++ op.outputs, t.NaNFree

theorem equalTensors_iff {ts us : List Tensor} :
    equalTensors ts us = true ↔ List.Forall₂ (fun t u => t.equal u = true) ts us := by
  induction ts generalizing us with
  | nil => cases us <;> simp [equalTensors]
  | cons t ts ih => cases us <;> simp [equalTensors, ih]

theorem equal_iff {op other : Operator Tensor} :
    op.equal other = true ↔
      (op.name, op.opType, op.attrs) = (other.name, other.opType, other.attrs) ∧
        List.Forall₂ (fun t u => t.equal u = true) op.inputs other.inputs ∧
        List.Forall₂ (fun t u => t.equal u = true) op.outputs other.outputs := by
  simp only [equal, Bool.and_eq_true, beq_iff_eq, decide_eq_true_eq, equalTensors_iff,
    Prod.mk.injEq]
  tauto

theorem partialEquivalence :
    PartialEquivalence (fun op other : Operator Tensor => op.equal other = true) NaNFree :=
  (((Tensor.partialEquivalence.list.comap inputs).and
    (Tensor.partialEquivalence.list.comap outputs)).keyed fun op =>
      (op.name, op.opType, op.attrs)).congr equal_iff fun _ => List.forall_mem_append

end Operator

/-- The same result and log, and equal operators. -/
structure Effect.Alike {ε : Type} (first second : Effect ε) : Prop where
  result : first.result = second.result
  log : first.log = second.log
  operator : first.operator.equal second.operator = true

theorem Softmax.constAxis?_of_equal {ts us : List Tensor}
    (each : List.Forall₂ (fun t u => t.equal u = true) ts us) :
    constAxis? ts = constAxis? us := by
  rw [constAxis?, constAxis?]
  cases each with
  | nil => rfl
  | cons _ later =>
    cases later with
    | nil => rfl
    | @cons axis axis' _ _ same _ =>
      change axis.content >>= Content.first? = axis'.content >>= Content.first?
      have contents := (Tensor.equal_iff.mp same).2
      generalize axis.content = c, axis'.content = d at contents
      cases contents with
      | none => rfl
      | some same => exact Content.first?_of_equal same

theorem Softmax.effect_alike (node : SourceNode) {op other : Operator Tensor}
    (same : op.equal other = true) : (effect node op).Alike (effect node other) := by
  obtain ⟨name, opType, inputs, outputs, attrs⟩ := op
  obtain ⟨name', opType', inputs', outputs', attrs'⟩ := other
  obtain ⟨parts, ins, outs⟩ := Operator.equal_iff.mp same
  obtain ⟨rfl, rfl, rfl⟩ : name = name' ∧ opType = opType' ∧ attrs = attrs' := by simpa using parts
  cases node with
  | tensorflow node =>
    have axis := constAxis?_of_equal ins
    have empty : inputs = [] ↔ inputs' = [] := by
      cases ins <;> simp
    refine ⟨rfl, ?_, Operator.equal_iff.mpr ⟨?_, ?_, outs⟩⟩
    · simp only [effect, axis, empty]
      rfl
    · simp only [effect, axis]
    · exact List.forall₂_take 1 ins
  | onnx node =>
    simp only [effect]
    cases node.firstAttribute >>= Onnx.Attribute.toInt with
    | ok axis => exact ⟨rfl, rfl, Operator.equal_iff.mpr ⟨rfl, ins, outs⟩⟩
    | error cause => exact ⟨rfl, rfl, same⟩
  | unsupported framework => exact ⟨rfl, rfl, same⟩

theorem Extractor.effect_alike (extractor : Extractor) (node : SourceNode)
    {op other : Operator Tensor} (same : op.equal other = true) :
    (extractor.effect node op).Alike (extractor.effect node other) := by
  cases extractor with
  | softmax => exact Softmax.effect_alike node same

namespace Register

theorem effect_alike (register : Register) (node : SourceNode) {op other : Operator Tensor}
    (same : op.equal other = true) :
    (register.effect node op).Alike (register.effect node other) := by
  obtain ⟨names, opTypes, attrs⟩ :
      op.name = other.name ∧ op.opType = other.opType ∧ op.attrs = other.attrs := by
    simpa using (Operator.equal_iff.mp same).1
  have titles : op.title = other.title := by rw [Operator.title, Operator.title, names, opTypes]
  rw [effect, effect, opTypes]
  cases register.find? other.opType with
  | none => exact ⟨rfl, rfl, same⟩
  | some extractor =>
    have inner := extractor.effect_alike node same
    have attrs : (extractor.effect node op).operator.attrs =
        (extractor.effect node other).operator.attrs :=
      (Prod.mk.inj (Prod.mk.inj (Operator.equal_iff.mp inner.operator).1).2).2
    refine ⟨?_, ?_, inner.operator⟩
    · simp only [inner.result, titles]
    · simp only [inner.result, inner.log, attrs, titles]

/-- Equality of contents, of tensors and of operators is symmetric and transitive, and equal to
themselves are those without a NaN. Operators are compared by their tensors, so that copies under
other handles make no difference. Extraction respects equality: from equal operators it has the
same result, an error included, and leaves equal operators. -/
theorem extract_respects_equal :
    PartialEquivalence (fun c d : Content => c.equal d = true) Content.NaNFree ∧
    PartialEquivalence (fun t u : Tensor => t.equal u = true) Tensor.NaNFree ∧
    PartialEquivalence (fun op other : Operator Handle => op.contents.equal other.contents = true)
      (fun op => op.contents.NaNFree) ∧
    (∀ op clone : Operator Handle, clone.contents = op.contents →
      (op.contents.equal clone.contents = true ↔ op.contents.NaNFree)) ∧
    ∀ (register : Register) (node : SourceNode) (w w' : Workspace),
      w.operator.contents.equal w'.operator.contents = true →
      ((register.extract node).run.run w).1 = ((register.extract node).run.run w').1 ∧
        ((register.extract node).run.run w).2.operator.contents.equal
          ((register.extract node).run.run w').2.operator.contents = true := by
  refine ⟨Content.partialEquivalence, Tensor.partialEquivalence,
    Operator.partialEquivalence.comap Operator.contents, ?_, ?_⟩
  · intro op clone same
    rw [same]
    exact Operator.partialEquivalence.self_iff
  · intro register node w w' same
    have alike := register.effect_alike node same
    rw [run_extract, run_extract, contents_after, contents_after]
    exact ⟨alike.result, alike.operator⟩

/-- Two operators under different handles, of which one has a negative zero where the other has a
positive one, and the same axis in another order of memory. -/
theorem extract_respects_equal_zeros :
    let axes : StridedArray Int64 := .columnMajor [2, 2] [1, 5, -1, 7] rfl
    let axes' : StridedArray Int64 := .rowMajor [2, 2] [1, -1, 5, 7] rfl
    let op (first : Nat) (zero : Binary32) (axes : StridedArray Int64) : Operator Handle :=
      { name := "prob"
        opType := "Softmax"
        inputs :=
          [⟨first, { name := "logits:0", content := some ⟨.f32, .scalar zero⟩ }⟩,
            ⟨first + 1, { name := "axis:0", content := some ⟨.i64, axes⟩ }⟩] }
    let w : Workspace := ⟨op 0 ⟨0⟩ axes, 2, []⟩
    let w' : Workspace := ⟨op 5 ⟨0x80000000⟩ axes', 7, []⟩
    let left (w : Workspace) := ((full.extract (.tensorflow {})).run.run w).2.operator
    w.operator.contents.equal w'.operator.contents = true ∧
      (left w).contents.equal (left w').contents = true ∧
      (left w).attrs.find? "axis" = some (.int 1) := by
  intro axes axes' op w w' left
  have same : w.operator.contents.equal w'.operator.contents = true := by decide +kernel
  obtain ⟨-, -, -, -, respects⟩ := extract_respects_equal
  exact ⟨same, (respects full (.tensorflow {}) w w' same).2, by decide +kernel⟩

end Register
end NodeLowering
