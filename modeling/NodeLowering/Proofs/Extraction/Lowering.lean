import NodeLowering.Proofs.Extraction.Handles
import NodeLowering.Proofs.Extraction.Refusal
import NodeLowering.Proofs.Extraction.Runs

/-! The operators of nodes: which nodes have one, and what is in it. -/
namespace NodeLowering

/-- The name by which the operator of a node is known: the node's own, or else its first output. -/
inductive Onnx.Node.Known (node : Node) : String → Prop
  | named (some : node.name ≠ "") : Known node node.name
  | byOutput (output : String) (rest : List String) (unnamed : node.name = "")
      (first : node.outputs = output :: rest) (some : output ≠ "") : Known node output

/-- Nodes that have an operator, given which operator types are registered. -/
inductive Register.Lowers (register : Register) : SourceNode → Prop
  | tensorflow (node : TensorFlow.NodeDef) (registered : node.op ∈ register.keys) :
      Lowers register (.tensorflow node)
  | onnx (node : Onnx.Node) (known : ∃ name, node.Known name)
      (registered : node.opType ∈ register.keys) (gives : ∃ axis, node.Gives axis) :
      Lowers register (.onnx node)

/-- The axis is the only attribute, or there is none if it is the last axis, which is thus the one
that is meant where no attribute is found. -/
structure HasAxis (attrs : KeyMap Attr) (axis : Int) : Prop where
  last : axis = -1 → attrs = .empty
  other : axis ≠ -1 → ∃ value : Int64, value.toInt = axis ∧ attrs = .ofList [("axis", .int value)]
  meant : (attrs.find? "axis").elim (-1) (fun | .int value => value.toInt) = axis

/-- The operator has the name and the type of the signature, outputs that are known by name and
source only and are held by fresh handles, and the axis. -/
structure Signature.Makes (signature : Signature) (supply : Nat) (axis : Int)
    (op : Operator Handle) : Prop where
  name : op.name = signature.name
  opType : op.opType = signature.opType
  outputs : op.outputs.map (·.tensor) =
    signature.outputs.map fun output => { name := output, sourceOps := [signature.name] }
  fresh : ∀ output ∈ op.outputs, supply ≤ output.id
  distinct : (op.outputs.map (·.id)).Nodup
  axis : HasAxis op.attrs axis

/-- The operator has one input at most, held by a fresh handle that no output is held by. -/
structure Operator.Severed (op : Operator Handle) (supply : Nat) : Prop where
  single : op.inputs.length ≤ 1
  fresh : ∀ input ∈ op.inputs, supply ≤ input.id
  apart : ∀ input ∈ op.inputs, ∀ output ∈ op.outputs, output.id ≠ input.id

/-- The operator is the one of the node with the given inputs. -/
def SourceNode.Makes (inputs : List Handle) (supply : Nat) (op : Operator Handle) :
    SourceNode → Prop
  | tensorflow node =>
      let axis? := Softmax.secondInteger? (inputs.map (·.tensor))
      Signature.Makes ⟨node.name, node.op, [node.name ++ ":0"]⟩ supply (axis?.getD (-1)) op ∧
        op.inputs.map (·.tensor) = (inputs.map (·.tensor)).take 1 ∧ op.Severed supply
  | onnx node => ∃ name axis, node.Known name ∧ name ≠ "" ∧ node.Gives axis ∧
      Signature.Makes ⟨name, node.opType, node.outputs.filter (· ≠ "")⟩ supply axis.toInt op ∧
        op.inputs = inputs
  | unsupported _ => False

/-! Names and outputs -/

theorem Onnx.Node.Known.nonempty {node : Node} {name : String} (known : node.Known name) :
    name ≠ "" := by
  cases known with
  | named some => exact some
  | byOutput _ _ _ _ some => exact some

theorem Onnx.Node.Known.unique {node : Node} {name name' : String} (known : node.Known name)
    (known' : node.Known name') : name = name' := by
  cases known with
  | named some =>
    cases known' with
    | named => rfl
    | byOutput _ _ unnamed => exact absurd unnamed some
  | byOutput output rest unnamed first =>
    cases known' with
    | named some => exact absurd unnamed some
    | byOutput _ _ _ first' => exact (List.cons.inj (first.symm.trans first')).1

theorem Onnx.Node.Known.signature_eq {node : Node} {name : String} (known : node.Known name) :
    (SourceNode.onnx node).signature =
      .ok ⟨name, node.opType, node.outputs.filter (· ≠ "")⟩ := by
  cases known with
  | named some =>
    simp only [SourceNode.signature, some, ne_eq, not_false_eq_true, if_true, if_false]
  | byOutput output rest unnamed first some =>
    simp only [SourceNode.signature, unnamed, first, List.headD_cons, some, ne_eq,
      not_true_eq_false, if_false]

theorem Onnx.Node.known_of_signature {node : Node} {signature : Signature}
    (signed : (SourceNode.onnx node).signature = .ok signature) : ∃ name, node.Known name := by
  by_cases unnamed : node.name = ""
  · cases first : node.outputs with
    | nil => simp [SourceNode.signature, unnamed, first] at signed
    | cons output rest =>
      by_cases empty : output = ""
      · simp [SourceNode.signature, unnamed, first, empty] at signed
      · exact ⟨output, .byOutput output rest unnamed first empty⟩
  · exact ⟨node.name, .named unnamed⟩

theorem hasAxis_withAxis (axis : Int64) : HasAxis (Softmax.withAxis .empty axis) axis.toInt := by
  by_cases last : axis = Softmax.defaultAxis
  · rw [Softmax.withAxis, if_pos last, last]
    exact ⟨fun _ => rfl, fun other => absurd rfl other, rfl⟩
  · have other : axis.toInt ≠ -1 := fun same => last (Int64.toInt_inj.mp same)
    rw [Softmax.withAxis, if_neg last]
    refine ⟨fun same => absurd same other, fun _ => ⟨axis, rfl, rfl⟩, ?_⟩
    rw [KeyMap.find?_insert, if_pos rfl]
    rfl

theorem Softmax.toInt_getD (axis? : Option Int64) :
    (axis?.getD defaultAxis).toInt = (axis?.map Int64.toInt).getD (-1) := by
  cases axis? with
  | none => rfl
  | some axis => rfl

/-! The operator -/

theorem Softmax.severed_left {node : SourceNode} (kind : node.isTensorFlow = true)
    {first supply : Nat} (later : first ≤ supply) {op : Operator Handle}
    (outputs : Below op.outputs supply) : (left supply node op).Severed first := by
  have inputs := inputs_left kind supply op
  have fresh : ∀ input ∈ (left supply node op).inputs, input.id = supply := by
    intro input member
    rw [inputs] at member
    obtain ⟨data, _, rfl⟩ := List.mem_map.mp member
    rfl
  constructor
  · rw [inputs, List.length_map, List.length_take]
    exact Nat.min_le_left _ _
  · intro input member
    rw [fresh input member]
    exact later
  · intro input member output member'
    rw [fresh input member]
    exact Nat.ne_of_lt (outputs output member')

/-- The operator of a signature, when a softmax has been extracted, has the axis that was read. -/
theorem Signature.makes_left (signature : Signature) (inputs : List Handle) (w : Workspace)
    (supply : Nat) {node : SourceNode} {axis : Int64}
    (read : (Softmax.axis? (inputs.map (·.tensor)) node).getD Softmax.defaultAxis = axis) :
    signature.Makes w.supply axis.toInt
      (Softmax.left supply node (signature.make inputs w).operator) where
  name := rfl
  opType := rfl
  outputs := Working.tensors_number w.supply signature.tensors
  fresh _ member := (Working.mem_number member).1
  distinct := Working.number_nodup w.supply signature.tensors
  axis := by
    have contents : (signature.make inputs w).operator.contents.inputs =
        inputs.map (·.tensor) := rfl
    rw [Softmax.left, contents, read]
    exact hasAxis_withAxis axis

namespace Register

theorem lower_isOk_iff (register : Register) (node : SourceNode) (inputs : List Handle)
    (w : Workspace) :
    ((register.lower node inputs).run.run w).1 = .ok () ↔ register.Lowers node := by
  cases node with
  | tensorflow node =>
    rw [run_lower_ok rfl, extract_isOk_iff]
    refine ⟨fun listed => .tensorflow node listed.1, ?_⟩
    rintro ⟨_, registered⟩
    exact ⟨registered, trivial⟩
  | onnx node =>
    constructor
    · intro ok
      cases signed : (SourceNode.onnx node).signature with
      | error reason =>
        rw [run_lower_error signed] at ok
        cases ok
      | ok signature =>
        obtain ⟨name, known⟩ := Onnx.Node.known_of_signature signed
        rw [run_lower_ok known.signature_eq, extract_isOk_iff] at ok
        exact .onnx node ⟨name, known⟩ ok.1 ok.2
    · rintro (_ | ⟨_, ⟨name, known⟩, registered, gives⟩)
      rw [run_lower_ok known.signature_eq, extract_isOk_iff]
      exact ⟨registered, gives⟩
  | unsupported framework =>
    rw [run_lower_error rfl]
    exact ⟨nofun, nofun⟩

theorem lower_makes {register : Register} {node : SourceNode} (lowers : register.Lowers node)
    (inputs : List Handle) (w : Workspace) :
    node.Makes inputs w.supply ((register.lower node inputs).run.run w).2.operator := by
  cases lowers with
  | tensorflow node registered =>
    let signature : Signature := ⟨node.name, node.op, [node.name ++ ":0"]⟩
    have signed : (SourceNode.tensorflow node).signature = .ok signature := rfl
    have below : Below (signature.make inputs w).operator.outputs (w.supply + 1) :=
      fun output member => (Working.mem_number member).2
    rw [run_lower_ok signed, operator_extract registered]
    refine ⟨?_, ?_, Softmax.severed_left rfl (Nat.le_add_right _ _) below⟩
    · rw [← Softmax.toInt_constAxis?, ← Softmax.toInt_getD]
      exact signature.makes_left inputs w _ rfl
    · exact Softmax.tensors_left rfl _ _
  | onnx node known registered gives =>
    obtain ⟨name, known⟩ := known
    obtain ⟨axis, gives⟩ := gives
    rw [run_lower_ok known.signature_eq, operator_extract registered]
    refine ⟨name, axis, known, known.nonempty, gives, ?_, rfl⟩
    apply Signature.makes_left
    rw [Softmax.axis?, Onnx.Node.read_eq_ok_iff.mpr gives]
    rfl

/-- A TensorFlow node has an operator if its type is registered, an ONNX node if moreover it has a
name or a first output and its first attribute holds an integer, and no other node. The operator
has the node's name and type, outputs of its own, and the axis of the node; a TensorFlow node's
first input is all that is left of the inputs, as a copy, while an ONNX node's are kept. -/
theorem lower_lowers (register : Register) (node : SourceNode) (inputs : List Handle)
    (w : Workspace) :
    (((register.lower node inputs).run.run w).1 = .ok () ↔ register.Lowers node) ∧
      (((register.lower node inputs).run.run w).1 = .ok () →
        node.Makes inputs w.supply ((register.lower node inputs).run.run w).2.operator) := by
  have lowers := register.lower_isOk_iff node inputs w
  exact ⟨lowers, fun ok => lower_makes (lowers.mp ok) inputs w⟩

/-- A node without a name is known by its first output, and its omitted output is left out. Its
attribute has no type, and the axis is the integer. -/
theorem lower_lowers_unnamed :
    let node : Onnx.Node :=
      { opType := "Softmax", outputs := ["y", "", "z"]
        attributes := [{ name := "axis", int := 1 }] }
    let data : Handle := ⟨0, { name := "x" }⟩
    let lowered := (full.lower (.onnx node) [data, data]).run.run ⟨{}, 1, []⟩
    lowered.1 = .ok () ∧ lowered.2.operator.name = "y" ∧
      lowered.2.operator.outputs.map (·.tensor) =
        [{ name := "y", sourceOps := ["y"] }, { name := "z", sourceOps := ["y"] }] ∧
      lowered.2.operator.inputs = [data, data] ∧
      lowered.2.operator.attrs = .ofList [("axis", .int 1)] := by
  intro node data lowered
  obtain ⟨lowers, makes⟩ := lower_lowers full (.onnx node) [data, data] ⟨{}, 1, []⟩
  have known : node.Known "y" := .byOutput "y" ["", "z"] rfl rfl (by decide)
  have gives : node.Gives 1 := ⟨_, [], rfl, .inr rfl, rfl⟩
  have ok : lowered.1 = .ok () := lowers.mpr (.onnx node ⟨_, known⟩ (by decide +kernel) ⟨_, gives⟩)
  obtain ⟨name, axis, known', _, gives', made, inputs⟩ := makes ok
  obtain rfl : axis = 1 := gives'.unique gives
  obtain rfl : name = "y" := known'.unique known
  obtain ⟨value, same, attrs⟩ := made.axis.other (by decide)
  obtain rfl : value = 1 := Int64.toInt_inj.mp same
  exact ⟨ok, made.name, made.outputs, inputs, attrs⟩

end Register
end NodeLowering
