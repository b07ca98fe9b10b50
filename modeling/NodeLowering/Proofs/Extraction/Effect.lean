import NodeLowering.Register

/-! What extraction does, told of operators that own their tensors. The handles of an operator
follow what is done to its tensors: the first input of a TensorFlow node comes to be held by a
fresh handle, the handles of other inputs are dropped, and all others stay as they are. -/
namespace NodeLowering

/-- What work does to an operator that owns its tensors. -/
structure Effect (ε : Type) where
  result : Except ε Unit
  operator : Operator Tensor
  log : List Event

/-- Handles that are left of others, and the id of the next fresh one. -/
structure Held where
  handles : List Handle
  supply : Nat

/-- The workspace that an effect leaves when the handles of the inputs become the given ones. -/
def Workspace.after {ε : Type} (w : Workspace) (effect : Effect ε) (held : Held) : Workspace where
  operator := { w.operator with inputs := held.handles, attrs := effect.operator.attrs }
  supply := held.supply
  log := w.log ++ effect.log

namespace Working
variable {ε δ α β : Type}

theorem run_bind (work : Working ε α) (next : α → Working ε β) (w : Workspace) :
    (work >>= next).run.run w =
      match work.run.run w with
      | (.ok value, w') => (next value).run.run w'
      | (.error reason, w') => (.error reason, w') := by
  change (match work.run.run w with
    | (result, w') => (ExceptT.bindCont next result).run w' : Except ε β × Workspace) = _
  rcases work.run.run w with ⟨result, w'⟩
  cases result with
  | ok value => rfl
  | error reason => rfl

theorem run_operator (w : Workspace) :
    (operator : Working ε _).run.run w = (.ok w.operator, w) := rfl

theorem run_tell (event : Event) (w : Workspace) :
    (tell event : Working ε _).run.run w = (.ok (), { w with log := w.log ++ [event] }) := rfl

theorem run_ofExcept (result : Except ε α) (w : Workspace) :
    (ofExcept result : Working ε α).run.run w = (result, w) := by
  cases result with
  | ok value => rfl
  | error reason => rfl

theorem run_mapError_ok {work : Working ε α} {value : α} {w w' : Workspace}
    (run : work.run.run w = (.ok value, w')) (f : ε → δ) :
    (mapError f work).run.run w = (.ok value, w') := by
  change ((work.run.run w).1.mapError f, (work.run.run w).2) = _
  rw [run]
  rfl

theorem run_mapError_error {work : Working ε α} {reason : ε} {w w' : Workspace}
    (run : work.run.run w = (.error reason, w')) (f : ε → δ) :
    (mapError f work).run.run w = (.error (f reason), w') := by
  change ((work.run.run w).1.mapError f, (work.run.run w).2) = _
  rw [run]
  rfl

/-- Telling of each item in turn adds what is told to the log and does nothing else. -/
theorem run_forM_tell (event : α → Event) (items : List α) (w : Workspace) :
    (items.forM fun item => tell (event item) : Working ε Unit).run.run w =
      (.ok (), { w with log := w.log ++ items.map event }) := by
  induction items generalizing w with
  | nil =>
    rw [List.map_nil, List.append_nil]
    rfl
  | cons first rest ih =>
    change (rest.forM fun item => tell (event item) : Working ε Unit).run.run
      { w with log := w.log ++ [event first] } = _
    rw [ih, List.map_cons, List.append_assoc]
    rfl

/-- The tensors under consecutive handles. -/
def number (supply : Nat) : List Tensor → List Handle
  | [] => []
  | first :: rest => ⟨supply, first⟩ :: number (supply + 1) rest

theorem run_mapM_fresh (tensor : α → Tensor) (items : List α) (w : Workspace) :
    (items.mapM fun item => fresh (tensor item) : Working ε (List Handle)).run.run w =
      (.ok (number w.supply (items.map tensor)),
        { w with supply := w.supply + items.length }) := by
  induction items generalizing w with
  | nil => rfl
  | cons first rest ih =>
    rw [List.mapM_cons, run_bind]
    change ((do
      let later ← rest.mapM fun item => fresh (tensor item)
      return ⟨w.supply, tensor first⟩ :: later : Working ε (List Handle))).run.run
        { w with supply := w.supply + 1 } = _
    rw [run_bind, ih]
    simp only [List.map_cons, number, List.length_cons]
    rw [Nat.add_right_comm, Nat.add_assoc]
    rfl

theorem tensors_number (supply : Nat) (tensors : List Tensor) :
    (number supply tensors).map (·.tensor) = tensors := by
  induction tensors generalizing supply with
  | nil => rfl
  | cons first rest ih => exact congrArg (first :: ·) (ih (supply + 1))

end Working

namespace Softmax
open Working

def withAxis (attrs : KeyMap Attr) (axis : Int64) : KeyMap Attr :=
  if axis = defaultAxis then attrs else attrs.insert "axis" (.int axis)

def effect : SourceNode → Operator Tensor → Effect ExtractionError
  | .tensorflow _, op =>
      let axis? := constAxis? op.inputs
      let axis := axis?.getD defaultAxis
      { result := .ok ()
        operator := { op with inputs := op.inputs.take 1, attrs := withAxis op.attrs axis }
        log :=
          (if axis? = none then [.noConstantAxis op.title defaultAxis] else []) ++
            (if op.inputs = [] then [.noDataInput op.title] else []) ++ [.axis op.title axis] }
  | .onnx node, op =>
      match node.firstAttribute >>= Onnx.Attribute.toInt with
      | .ok axis => ⟨.ok (), { op with attrs := withAxis op.attrs axis }, [.axis op.title axis]⟩
      | .error cause => ⟨.error (.axis op.title cause), op, []⟩
  | .unsupported framework, op => ⟨.ok (), op, [.nothingToExtract op.title framework]⟩

def held (supply : Nat) : SourceNode → List Handle → Held
  | .tensorflow _, data :: _ => ⟨[⟨supply, data.tensor⟩], supply + 1⟩
  | .tensorflow _, [] => ⟨[], supply⟩
  | .onnx _, inputs | .unsupported _, inputs => ⟨inputs, supply⟩

theorem run_writeAxis (axis : Int64) (w : Workspace) :
    (writeAxis axis).run.run w =
      (.ok (), { w with
        operator := { w.operator with attrs := withAxis w.operator.attrs axis }
        log := w.log ++ [.axis w.operator.title axis] }) := by
  by_cases default : axis = defaultAxis
  · simp only [writeAxis, withAxis, default, ne_eq, not_true_eq_false, if_false, if_true]
    rfl
  · simp only [writeAxis, withAxis, default, ne_eq, not_false_eq_true, if_true, if_false]
    rfl

theorem run_axisInput (w : Workspace) :
    axisInput.run.run w =
      (.ok ((constAxis? w.operator.contents.inputs).getD defaultAxis), { w with
        log := w.log ++ if constAxis? w.operator.contents.inputs = none then
          [.noConstantAxis w.operator.title defaultAxis] else [] }) := by
  rw [axisInput, run_bind, run_operator]
  dsimp only
  cases constAxis? w.operator.contents.inputs with
  | some axis =>
    simp only [reduceCtorEq, if_false, List.append_nil]
    rfl
  | none => rfl

theorem run_detachInputs (node : TensorFlow.NodeDef) (w : Workspace) :
    detachInputs.run.run w =
      (.ok (), { w with
        operator :=
          { w.operator with inputs := (held w.supply (.tensorflow node) w.operator.inputs).handles }
        supply := (held w.supply (.tensorflow node) w.operator.inputs).supply
        log :=
          w.log ++ if w.operator.inputs = [] then [.noDataInput w.operator.title] else [] }) := by
  obtain ⟨⟨name, opType, inputs, outputs, attrs⟩, supply, log⟩ := w
  cases inputs with
  | nil => rfl
  | cons data rest =>
    simp only [reduceCtorEq, if_false, List.append_nil]
    rfl

theorem inputs_eq_nil {op : Operator Handle} : op.contents.inputs = [] ↔ op.inputs = [] :=
  List.map_eq_nil_iff

theorem run_extract (node : SourceNode) (w : Workspace) :
    (extract node).run.run w =
      ((effect node w.operator.contents).result,
        w.after (effect node w.operator.contents) (held w.supply node w.operator.inputs)) := by
  cases node with
  | tensorflow node =>
    rw [extract, run_bind, run_axisInput]
    dsimp only
    rw [run_bind, run_detachInputs node]
    dsimp only
    rw [run_writeAxis]
    simp only [effect, Workspace.after, inputs_eq_nil, List.append_assoc]
    rfl
  | onnx node =>
    rw [extract, run_bind]
    change (do
      let axis ← ofExcept <| (node.firstAttribute >>= Onnx.Attribute.toInt).mapError
        (.axis w.operator.title)
      writeAxis axis : Extraction Unit).run.run w = _
    rw [run_bind, run_ofExcept, effect]
    cases node.firstAttribute >>= Onnx.Attribute.toInt with
    | ok axis => exact run_writeAxis axis w
    | error cause =>
      simp only [Workspace.after, List.append_nil]
      rfl
  | unsupported framework => rfl

/-- The handles that are left hold the tensors that are left. -/
theorem contents_after (node : SourceNode) (w : Workspace) :
    (w.after (effect node w.operator.contents)
      (held w.supply node w.operator.inputs)).operator.contents =
      (effect node w.operator.contents).operator := by
  obtain ⟨⟨name, opType, inputs, outputs, attrs⟩, supply, log⟩ := w
  cases node with
  | tensorflow node =>
    cases inputs with
    | nil => rfl
    | cons data rest => rfl
  | onnx node =>
    simp only [effect, Workspace.after]
    cases node.firstAttribute >>= Onnx.Attribute.toInt with
    | ok axis => rfl
    | error cause => rfl
  | unsupported framework => rfl

end Softmax

namespace Extractor

def effect : Extractor → SourceNode → Operator Tensor → Effect ExtractionError
  | softmax => Softmax.effect

def held : Extractor → Nat → SourceNode → List Handle → Held
  | softmax => Softmax.held

theorem run_run (extractor : Extractor) (node : SourceNode) (w : Workspace) :
    (extractor.run node).run.run w =
      ((extractor.effect node w.operator.contents).result,
        w.after (extractor.effect node w.operator.contents)
          (extractor.held w.supply node w.operator.inputs)) := by
  cases extractor with
  | softmax => exact Softmax.run_extract node w

theorem contents_after (extractor : Extractor) (node : SourceNode) (w : Workspace) :
    (w.after (extractor.effect node w.operator.contents)
      (extractor.held w.supply node w.operator.inputs)).operator.contents =
      (extractor.effect node w.operator.contents).operator := by
  cases extractor with
  | softmax => exact Softmax.contents_after node w

end Extractor

/-- The operator of a signature over the given inputs and outputs. -/
def Signature.operator {τ : Type} (signature : Signature) (inputs outputs : List τ) :
    Operator τ where
  name := signature.name
  opType := signature.opType
  inputs := inputs
  outputs := outputs

/-- The outputs are known by name and source only. -/
def Signature.tensors (signature : Signature) : List Tensor :=
  signature.outputs.map fun output => { name := output, sourceOps := [signature.name] }

/-- The workspace on which the operator of a signature has just been made, with fresh handles to its
outputs. -/
def Signature.make (signature : Signature) (inputs : List Handle) (w : Workspace) : Workspace where
  operator := signature.operator inputs (Working.number w.supply signature.tensors)
  supply := w.supply + signature.outputs.length
  log := w.log ++ [.created (signature.operator inputs []).title
    (inputs.map fun handle => handle.tensor.text)]

theorem Signature.contents_make (signature : Signature) (inputs : List Handle) (w : Workspace) :
    (signature.make inputs w).operator.contents =
      signature.operator (inputs.map (·.tensor)) signature.tensors := by
  simp only [make, Operator.contents, Operator.map, operator, Working.tensors_number]

namespace Register
open Working

def effect (register : Register) (node : SourceNode) (op : Operator Tensor) :
    Effect LoweringError :=
  match register.find? op.opType with
  | none => ⟨.error (.notRegistered op.opType), op, []⟩
  | some extractor =>
      let inner := extractor.effect node op
      let attrs :=
        match inner.result with
        | .ok _ => inner.operator.attrs.toList
        | .error _ => []
      { result := inner.result.mapError (.extraction op.title)
        operator := inner.operator
        log := .extracting op.title node.framework ::
          (inner.log ++ attrs.map fun (name, value) => .extracted op.title name value) }

def held (register : Register) (opType : String) (supply : Nat) (node : SourceNode)
    (inputs : List Handle) : Held :=
  match register.find? opType with
  | none => ⟨inputs, supply⟩
  | some extractor => extractor.held supply node inputs

/-- What the lowering of a node makes of nothing. -/
def lowering (register : Register) (node : SourceNode) (inputs : List Tensor) :
    Effect LoweringError :=
  match node.signature with
  | .error reason => ⟨.error reason, {}, []⟩
  | .ok signature =>
      let op := signature.operator inputs signature.tensors
      let inner := register.effect node op
      { inner with log := .created op.title (inputs.map Tensor.text) :: inner.log }

theorem run_extract (register : Register) (node : SourceNode) (w : Workspace) :
    (register.extract node).run.run w =
      ((register.effect node w.operator.contents).result,
        w.after (register.effect node w.operator.contents)
          (register.held w.operator.opType w.supply node w.operator.inputs)) := by
  have opType : w.operator.contents.opType = w.operator.opType := rfl
  rw [extract, run_bind, run_operator, effect, held, opType]
  dsimp only
  cases register.find? w.operator.opType with
  | none =>
    simp only [Workspace.after, List.append_nil]
    rfl
  | some extractor =>
    dsimp only
    rw [run_bind, run_tell]
    dsimp only
    have run := extractor.run_run node
      { w with log := w.log ++ [.extracting w.operator.title node.framework] }
    cases result : (extractor.effect node w.operator.contents).result with
    | error cause =>
      rw [result] at run
      rw [run_bind, run_mapError_error run]
      simp only [Workspace.after, List.append_assoc, List.map_nil, List.append_nil,
        List.cons_append, List.nil_append]
      rfl
    | ok _ =>
      rw [result] at run
      rw [run_bind, run_mapError_ok run]
      dsimp only
      rw [run_bind, run_operator]
      dsimp only
      refine (run_forM_tell _ _ _).trans ?_
      simp only [Workspace.after, List.append_assoc, List.cons_append, List.nil_append]
      rfl

theorem contents_after (register : Register) (node : SourceNode) (w : Workspace) :
    (w.after (register.effect node w.operator.contents)
      (register.held w.operator.opType w.supply node w.operator.inputs)).operator.contents =
      (register.effect node w.operator.contents).operator := by
  have opType : w.operator.contents.opType = w.operator.opType := rfl
  rw [effect, held, opType]
  cases register.find? w.operator.opType with
  | none => rfl
  | some extractor => exact extractor.contents_after node w

theorem run_lower_error {node : SourceNode} {reason : LoweringError}
    (unsigned : node.signature = .error reason) (register : Register) (inputs : List Handle)
    (w : Workspace) : (register.lower node inputs).run.run w = (.error reason, w) := by
  rw [lower, run_bind, run_ofExcept, unsigned]

/-- The operator is made and then extracted. -/
theorem run_lower_ok {node : SourceNode} {signature : Signature}
    (signed : node.signature = .ok signature) (register : Register) (inputs : List Handle)
    (w : Workspace) :
    (register.lower node inputs).run.run w =
      (register.extract node).run.run (signature.make inputs w) := by
  rw [lower, run_bind, run_ofExcept, signed]
  dsimp only
  rw [run_bind, run_mapM_fresh]
  dsimp only
  rw [run_bind]
  change (do
    tell (.created (signature.operator inputs []).title
      ((inputs.map (·.tensor)).map Tensor.text))
    register.extract node : Working LoweringError Unit).run.run
      { w with
        operator := signature.operator inputs (number w.supply signature.tensors)
        supply := w.supply + signature.outputs.length } = _
  rw [run_bind, run_tell, List.map_map]
  rfl

end Register
end NodeLowering
