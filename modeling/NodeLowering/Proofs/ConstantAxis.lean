import NodeLowering.Proofs.Extraction.Lowering
import NodeLowering.Proofs.TensorFlow.Constant
import NodeLowering.Proofs.Wire.Merge

/-! From a content to the axis of an operator, by way of the encoding of a `Const` node. -/
namespace NodeLowering

namespace Content

/-- The attributes that a content as second input gives an operator that had none. -/
structure GivesAxis (content : Content) (attrs : KeyMap Attr) : Prop where
  written : ∀ n, content.firstInteger? = some n → n ≠ -1 →
    ∃ axis : Int64, axis.toInt = n ∧ attrs = .ofList [("axis", .int axis)]
  last : content.firstInteger? = none ∨ content.firstInteger? = some (-1) → attrs = .empty

theorem givesAxis_withAxis (content : Content) :
    content.GivesAxis
      (Softmax.withAxis .empty (content.first?.getD Softmax.defaultAxis)) := by
  have axis := hasAxis_withAxis (content.first?.getD Softmax.defaultAxis)
  rw [Softmax.toInt_getD, content.toInt_first?] at axis
  constructor
  · intro n first different
    rw [first, Option.getD_some] at axis
    exact axis.other different
  · rintro (absent | last)
    · rw [absent] at axis
      exact axis.last rfl
    · rw [last] at axis
      exact axis.last rfl

end Content

namespace Register

/-- A TensorFlow node of a registered type gives an operator with its first input only, and with the
axis that its second input holds. -/
theorem run_lower_tensorflow {register : Register} {source : TensorFlow.NodeDef}
    (registered : register.contains source.op) (data axis : Handle) (more : List Handle)
    (w : Workspace) :
    ∃ w', (register.lower (.tensorflow source) (data :: axis :: more)).run.run w = (.ok (), w') ∧
      w'.operator.inputs = [⟨w.supply + 1, data.tensor⟩] ∧
      w'.operator.attrs = Softmax.withAxis .empty
        ((axis.tensor.content.bind Content.first?).getD Softmax.defaultAxis) := by
  have listed : source.op ∈ register.keys := KeyMap.mem_keys.mpr registered
  have signed : (SourceNode.tensorflow source).signature =
      .ok ⟨source.name, source.op, [source.name ++ ":0"]⟩ := rfl
  have lowered := (register.lower_isOk_iff (.tensorflow source) (data :: axis :: more) w).mpr
    (.tensorflow source listed)
  refine ⟨_, Prod.ext lowered rfl, ?_⟩
  rw [run_lower_ok signed, operator_extract listed]
  exact ⟨rfl, rfl⟩

end Register

namespace TensorFlow.NodeDef

theorem decode_ofConst {name : String} {content : Content}
    {attrs : List (String × Option AttrValue)}
    (perm : attrs.Perm (ofConst name content).attrs.toList)
    (fits : ((ofConst name content).encodeInOrder attrs).length < 9223372036854775808) :
    format.decode ((ofConst name content).encodeInOrder attrs) = some (ofConst name content) := by
  have encodes : MessageType.nodeDef.Encodes (ofConst name content)
      ((ofConst name content).encodeInOrder attrs) := ⟨attrs, perm, rfl⟩
  have updated := MessageType.update_of_encodes encodes fits format.empty
  exact updated.trans (congrArg some (empty_merge _))

/-- A constant that is encoded, its attributes in any order, and decoded again is folded into a
tensor of the same content. A node of a registered type with this tensor as second input gives an
operator with its first input only, and with the first element of the content as axis. -/
theorem lower_constant_axis (name : String) {content : Content}
    (addressable : content.array.Addressable) {attrs : List (String × Option AttrValue)}
    (perm : attrs.Perm (ofConst name content).attrs.toList)
    (fits : ((ofConst name content).encodeInOrder attrs).length < 9223372036854775808) :
    ∃ node tensor back,
      format.decode ((ofConst name content).encodeInOrder attrs) = some node ∧
      node.toConst = .ok tensor ∧
      tensor =
        { name := name ++ ":0"
          sourceOps := [name]
          destOps := []
          shape := some (content.shape.map Int64.ofNat)
          dtype := some content.type
          content := some back } ∧
      back.Same content ∧
      ∀ (register : Register) (source : NodeDef), register.contains source.op →
        ∀ (data : Handle) (id : Nat) (more : List Handle) (w : Workspace), ∃ w' input,
          (register.lower (.tensorflow source) (data :: ⟨id, tensor⟩ :: more)).run.run w =
              (.ok (), w') ∧
            w'.operator.inputs = [input] ∧ input.tensor = data.tensor ∧
            content.GivesAxis w'.operator.attrs := by
  obtain ⟨back, same, folded⟩ := toConst_ofConst name addressable
  refine ⟨_, _, back, decode_ofConst perm fits, folded, rfl, same, ?_⟩
  intro register source registered data id more w
  obtain ⟨w', lowered, inputs, attrs⟩ :=
    Register.run_lower_tensorflow registered data ⟨id, _⟩ more w
  refine ⟨w', _, lowered, inputs, rfl, ?_⟩
  rw [attrs, Option.bind_some, same.first?]
  exact content.givesAxis_withAxis

/-- A vector in reversed memory order: its first element is the last one in the buffer. -/
theorem lower_constant_axis_reversed :
    let content : Content := ⟨.i8, (StridedArray.vector [3, -2]).invert 0⟩
    let axis := ofConst "axis" content
    ∃ node tensor w',
      format.decode (axis.encodeInOrder axis.attrs.toList.reverse) = some node ∧
      node.toConst = .ok tensor ∧
      (Register.full.lower (.tensorflow { name := "prob", op := "Softmax" })
        [⟨0, { name := "logits" }⟩, ⟨1, tensor⟩]).run.run ⟨{}, 2, []⟩ = (.ok (), w') ∧
      w'.operator.attrs = .ofList [("axis", .int (-2))] := by
  intro content axis
  have addressable : content.array.Addressable := by
    change _ ≤ _
    decide
  have fits : (axis.encodeInOrder axis.attrs.toList.reverse).length < 9223372036854775808 := by
    decide +kernel
  obtain ⟨node, tensor, back, decoded, folded, rfl, same, lowers⟩ :=
    lower_constant_axis "axis" addressable (List.reverse_perm _) fits
  obtain ⟨w', input, lowered, _, _, written, _⟩ :=
    lowers .full { name := "prob", op := "Softmax" } (by decide +kernel) ⟨0, { name := "logits" }⟩ 1
      [] ⟨{}, 2, []⟩
  have first : content.firstInteger? = some (-2) := by decide +kernel
  obtain ⟨axis, value, attrs⟩ := written (-2) first (by decide)
  obtain rfl : axis = -2 := Int64.toInt_inj.mp value
  exact ⟨node, _, w', decoded, folded, lowered, attrs⟩

end TensorFlow.NodeDef
end NodeLowering
