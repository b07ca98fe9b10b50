import NodeLowering.Proofs.Extraction.Axis

/-! Extraction from one node, and from one node after the other. Only the first TensorFlow node sees
the second input of the operator, which it drops, so what a node gives depends on the nodes before
it. -/
namespace NodeLowering

def SourceNode.isTensorFlow : SourceNode → Bool
  | tensorflow _ => true
  | onnx _ | unsupported _ => false

theorem Softmax.handles_held (supply : Nat) (node : SourceNode) (inputs : List Handle) :
    (held supply node inputs).handles =
      if node.isTensorFlow then (inputs.take 1).map fun data => ⟨supply, data.tensor⟩
      else inputs := by
  cases node with
  | tensorflow node =>
    cases inputs with
    | nil => rfl
    | cons data rest => rfl
  | onnx node | unsupported framework => rfl

/-- The operator that is left when a softmax has been extracted. -/
def Softmax.left (supply : Nat) (node : SourceNode) (op : Operator Handle) : Operator Handle :=
  { op with
    inputs := (held supply node op.inputs).handles
    attrs := withAxis op.attrs ((axis? op.contents.inputs node).getD defaultAxis) }

theorem Softmax.inputs_left {node : SourceNode} (kind : node.isTensorFlow = true) (supply : Nat)
    (op : Operator Handle) :
    (left supply node op).inputs = (op.inputs.take 1).map fun data => ⟨supply, data.tensor⟩ :=
  (handles_held supply node op.inputs).trans (if_pos kind)

theorem Softmax.inputs_left_of_other {node : SourceNode} (kind : node.isTensorFlow = false)
    (supply : Nat) (op : Operator Handle) : (left supply node op).inputs = op.inputs :=
  (handles_held supply node op.inputs).trans (if_neg (by simp [kind]))

theorem Softmax.tensors_left {node : SourceNode} (kind : node.isTensorFlow = true) (supply : Nat)
    (op : Operator Handle) :
    (left supply node op).contents.inputs = op.contents.inputs.take 1 := by
  change (left supply node op).inputs.map (·.tensor) = (op.inputs.map (·.tensor)).take 1
  rw [inputs_left kind, List.map_map, ← List.map_take]
  rfl

theorem Extractor.operator_run (extractor : Extractor) (node : SourceNode) (w : Workspace) :
    ((extractor.run node).run.run w).2.operator = Softmax.left w.supply node w.operator := by
  cases extractor with
  | softmax =>
    rw [run_run, Workspace.after, effect, Softmax.attrs_effect]
    rfl

namespace Register

theorem mem_keys_iff {register : Register} {opType : String} :
    opType ∈ register.keys ↔ register.find? opType = some .softmax := by
  rw [KeyMap.mem_keys, Option.isSome_iff_exists]
  constructor
  · rintro ⟨extractor, found⟩
    cases extractor with
    | softmax => exact found
  · exact fun found => ⟨_, found⟩

theorem operator_extract {register : Register} {w : Workspace}
    (registered : w.operator.opType ∈ register.keys) (node : SourceNode) :
    ((register.extract node).run.run w).2.operator = Softmax.left w.supply node w.operator := by
  have found := mem_keys_iff.mp registered
  have found' : register.find? w.operator.contents.opType = some .softmax := found
  rw [run_extract, Workspace.after, effect, held, found', found]
  dsimp only
  rw [Extractor.effect, Softmax.attrs_effect]
  rfl

end Register

namespace Softmax

/-- What nodes that are extracted one after the other give as axes. -/
def contributions : Option Int → List SourceNode → List Int
  | _, [] => []
  | second?, node :: rest =>
      (contribution? second? node).toList ++
        contributions (if node.isTensorFlow then none else second?) rest

/-- The last of some axes that is not the one for the last axis. -/
def lastWritten (axes : List Int) : Option Int := (axes.filter (· ≠ -1)).getLast?

theorem lastWritten_append (earlier later : List Int) :
    lastWritten (earlier ++ later) = (lastWritten later).or (lastWritten earlier) := by
  rw [lastWritten, List.filter_append, List.getLast?_append]
  rfl

theorem lastWritten_toList (axis? : Option Int) :
    lastWritten axis?.toList = axis?.filter (· ≠ -1) := by
  cases axis? with
  | none => rfl
  | some n =>
    by_cases last : n = -1
    · subst last
      rfl
    · simp [lastWritten, Option.filter, last]

theorem secondInteger?_take (inputs : List Tensor) : secondInteger? (inputs.take 1) = none := by
  cases inputs with
  | nil => rfl
  | cons data rest => rfl

/-- What extraction from nodes leaves as it was, and what it changes and how. -/
structure Extracted (before after : Operator Handle) (nodes : List SourceNode) : Prop where
  name : after.name = before.name
  opType : after.opType = before.opType
  outputs : after.outputs = before.outputs
  attrs : ∀ key, key ≠ "axis" → after.attrs.find? key = before.attrs.find? key
  handles : nodes.any SourceNode.isTensorFlow = false → after.inputs = before.inputs
  tensors : nodes.any SourceNode.isTensorFlow = true →
    after.contents.inputs = before.contents.inputs.take 1
  axis : AxisIs before.attrs after.attrs
    (lastWritten (contributions (secondInteger? before.contents.inputs) nodes))

namespace Extracted
variable {before between after : Operator Handle} {node : SourceNode} {nodes : List SourceNode}

theorem refl (op : Operator Handle) : Extracted op op [] where
  name := rfl
  opType := rfl
  outputs := rfl
  attrs _ _ := rfl
  handles _ := rfl
  tensors none := by contradiction
  axis := rfl

theorem secondInteger?_eq (first : Extracted before between [node]) :
    secondInteger? between.contents.inputs =
      if node.isTensorFlow then none else secondInteger? before.contents.inputs := by
  cases kind : node.isTensorFlow with
  | true =>
    rw [first.tensors (by simp [kind]), secondInteger?_take]
    rfl
  | false =>
    rw [Operator.contents, Operator.map, first.handles (by simp [kind])]
    rfl

theorem cons (first : Extracted before between [node]) (rest : Extracted between after nodes) :
    Extracted before after (node :: nodes) where
  name := rest.name.trans first.name
  opType := rest.opType.trans first.opType
  outputs := rest.outputs.trans first.outputs
  attrs key other := (rest.attrs key other).trans (first.attrs key other)
  handles none := by
    obtain ⟨one, others⟩ := Bool.or_eq_false_iff.mp none
    exact (rest.handles others).trans (first.handles (by simp [one]))
  tensors some := by
    -- Whichever node comes first, what is taken of the inputs is the first one.
    cases kind : node.isTensorFlow with
    | true =>
      have one := first.tensors (by simp [kind])
      cases others : nodes.any SourceNode.isTensorFlow with
      | true => rw [rest.tensors others, one, List.take_take, Nat.min_self]
      | false =>
        rw [Operator.contents, Operator.map, rest.handles others]
        exact one
    | false =>
      have others : nodes.any SourceNode.isTensorFlow = true := by simpa [kind] using some
      rw [rest.tensors others, Operator.contents, Operator.map, first.handles (by simp [kind])]
      rfl
  axis := by
    have one := first.axis
    have others := rest.axis
    rw [first.secondInteger?_eq] at others
    rw [contributions, contributions, List.append_nil] at one
    rw [contributions, lastWritten_append]
    exact one.trans others

end Extracted

theorem extracted_left (supply : Nat) (node : SourceNode) (op : Operator Handle) :
    Extracted op (left supply node op) [node] where
  name := rfl
  opType := rfl
  outputs := rfl
  attrs key other := find?_withAxis other op.attrs _
  handles none := by
    have kind : node.isTensorFlow = false := by simpa using none
    exact inputs_left_of_other kind supply op
  tensors some := by
    have kind : node.isTensorFlow = true := by simpa using some
    exact tensors_left kind supply op
  axis := by
    rw [contributions, contributions, List.append_nil, lastWritten_toList, ← toInt_axis?]
    exact axisIs_withAxis _ _

end Softmax

namespace Register

/-- The workspace after extraction from nodes one after the other, whether it fails or not. -/
def extractAll (register : Register) (nodes : List SourceNode) (w : Workspace) : Workspace :=
  nodes.foldl (fun w node => ((register.extract node).run.run w).2) w

theorem extract_extracted {register : Register} {w : Workspace}
    (registered : register.find? w.operator.opType = some .softmax) (node : SourceNode) :
    Softmax.Extracted w.operator ((register.extract node).run.run w).2.operator [node] := by
  rw [operator_extract (mem_keys_iff.mpr registered)]
  exact Softmax.extracted_left w.supply node w.operator

/-- Whatever the nodes are, and whether extraction from them fails or not, an operator that is
extracted as a softmax keeps its name, type, outputs and attributes but for the axis. Its inputs
stay unless there is a TensorFlow node, and its axis is the last one that was written. -/
theorem extractAll_extracted {register : Register} {w : Workspace}
    (registered : register.find? w.operator.opType = some .softmax) (nodes : List SourceNode) :
    Softmax.Extracted w.operator (register.extractAll nodes w).operator nodes := by
  induction nodes generalizing w with
  | nil => exact .refl _
  | cons node rest ih =>
    have first := extract_extracted registered node
    exact first.cons (ih (first.opType ▸ registered))

/-- The second TensorFlow node finds no axis, the nodes without an attribute and with the last axis
write none, and the axis of the first TensorFlow node stays. -/
theorem extractAll_extracted_interleaved :
    let register : Register := .ofList [("Probabilities", .softmax)]
    let axis : Content := ⟨.i64, .scalar 2⟩
    let op : Operator Handle :=
      { name := "prob"
        opType := "Probabilities"
        inputs := [⟨0, { name := "logits" }⟩, ⟨1, { name := "axis", content := some axis }⟩] }
    let nodes : List SourceNode :=
      [.onnx { attributes := [.ofInt "axis" 3] }, .unsupported .tensorflow, .tensorflow {},
        .onnx {}, .tensorflow {}, .onnx { attributes := [.ofInt "axis" (-1)] }]
    let after := (register.extractAll nodes ⟨op, 2, []⟩).operator
    register.find? op.opType = some .softmax ∧ Softmax.Extracted op after nodes ∧
      after.attrs.find? "axis" = some (.int 2) := by
  intro register axis op nodes after
  have registered : register.find? op.opType = some .softmax := by decide +kernel
  have extracted : Softmax.Extracted op after nodes :=
    extractAll_extracted (w := ⟨op, 2, []⟩) registered nodes
  have last : Softmax.lastWritten
      (Softmax.contributions (Softmax.secondInteger? op.contents.inputs) nodes) = some 2 := by
    decide +kernel
  have written := extracted.axis
  rw [last] at written
  obtain ⟨n, value, found⟩ := written
  obtain rfl : n = 2 := Int64.toInt_inj.mp value
  exact ⟨registered, extracted, found⟩

end Register
end NodeLowering
