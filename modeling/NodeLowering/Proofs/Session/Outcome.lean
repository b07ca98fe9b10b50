import NodeLowering.Proofs.Extraction.Lowering
import NodeLowering.Proofs.Register.Listing
import NodeLowering.Proofs.Session.InPlace

/-! What a step can do to a session. A step that fails does nothing; any other stores one tensor or
one operator at most, whose handles were there before or are fresh, or makes its changes to the
register. -/
namespace NodeLowering

def SuppliedNode.isTensorFlow : SuppliedNode → Bool
  | tensorflow _ => true
  | onnx _ | unsupported _ => false

theorem SuppliedNode.isTensorFlow_read {supplied : SuppliedNode} {node : SourceNode}
    (read : supplied.read = some node) : node.isTensorFlow = supplied.isTensorFlow := by
  cases supplied with
  | tensorflow supplied =>
    obtain ⟨message, _, rfl⟩ := Option.map_eq_some_iff.mp read
    rfl
  | onnx supplied =>
    obtain ⟨message, _, rfl⟩ := Option.map_eq_some_iff.mp read
    rfl
  | unsupported framework =>
    obtain rfl := Option.some.inj read
    rfl

namespace Session
variable {session : Session} {step : Step}

/-- The step has done what it is for. -/
def Answer.succeeded : Answer → Bool
  | tensor _ | operator _ | registered _ _ | extracted _ | equal _ => true
  | notExtracted _ _ | refused _ | aborted | undecodable | unknown => false

/-- A touched tensor may be copied always, or only if it has other holders. -/
def Answers (session : Session) (step : Step) (reply : Reply) : Prop :=
  reply = session.step step ∨ reply = session.stepInPlace step

namespace Step

/-- The name of the operator that the step stores if it succeeds. -/
def target? : Step → Option String
  | newOperator id _ | extract id _ | extractWith _ id _ | lower id _ _ => some id
  | copyOperator _ id | touchInput id _ _ => some id
  | tensor _ _ | const _ _ | register _ _ | unregister _ | touchTensor _ _ => none
  | showOperator _ | showTensor _ | equalOperators _ _ | equalTensors _ _ => none

def touches : Step → Bool
  | touchInput _ _ _ | touchTensor _ _ => true
  | _ => false

/-- What a step does to the register. -/
def changes : Step → List Register.Change
  | register name source => [.insertFound name source]
  | unregister name => [.remove name]
  | _ => []

theorem changes_of_target {step : Step} {id : String} (target : step.target? = some id) :
    step.changes = [] := by
  cases step with
  | newOperator | extract | extractWith | lower | copyOperator | touchInput => rfl
  | tensor | const | register | unregister | touchTensor | showOperator | showTensor
  | equalOperators | equalTensors => cases target

theorem changes_of_touches {step : Step} (touches : step.touches = true) : step.changes = [] := by
  cases step with
  | touchInput | touchTensor => rfl
  | tensor | const | register | unregister | newOperator | extract | extractWith | lower
  | copyOperator | showOperator | showTensor | equalOperators | equalTensors => cases touches

/-- The step makes an operator of a TensorFlow node, or extracts one from it. -/
def Severs (id : String) : Step → Prop
  | extract other node | extractWith _ other node | lower other node _ =>
      other = id ∧ node.isTensorFlow = true
  | _ => False

end Step

/-- The inputs of an operator are those of a stored one, or are held by fresh handles. -/
def InputsFrom (session : Session) (source : String) (op : Operator Handle) : Prop :=
  ∃ old, session.operators.find? source = some old ∧
    ∀ input ∈ op.inputs, input ∈ old.inputs ∨ session.supply ≤ input.id

/-- What the inputs of the operator that a step stores are. -/
def Step.Leaves (session : Session) (op : Operator Handle) : Step → Prop
  | extract id node | extractWith _ id node =>
      if node.isTensorFlow then op.Severed session.supply else session.InputsFrom id op
  | lower _ node _ => node.isTensorFlow = true → op.Severed session.supply
  | copyOperator id _ | touchInput id _ _ => session.InputsFrom id op
  | _ => True

/-- What a reply can say, and what the session can be after it. -/
inductive Outcome (session : Session) (step : Step) (reply : Reply) : Prop
  | failed (failed : reply.answer.succeeded = false) (idle : step.changes = [])
      (same : reply.session = session)
  | kept (succeeded : reply.answer.succeeded = true) (target : step.target? = none)
      (register : reply.session.register = session.register.after step.changes)
      (tensors : reply.session.tensors = session.tensors)
      (operators : reply.session.operators = session.operators)
      (supply : reply.session.supply = session.supply)
  | tensor (succeeded : reply.answer.succeeded = true) (target : step.target? = none)
      (idle : step.changes = []) (id : String) (tensor : Tensor)
      (stored : reply.session = session.storeTensor id tensor)
  | operator (succeeded : reply.answer.succeeded = true) (id : String) (op : Operator Handle)
      (left : Nat) (target : step.target? = some id)
      (made : Below session.handles session.supply →
        Grows session.handles session.supply op.handles left ∧ step.Leaves session op)
      (stored : reply.session = session.stored left id op)
  | overwritten (succeeded : reply.answer.succeeded = true) (touches : step.touches = true)
      (id : Nat) (tensor : Tensor) (changed : reply.session = session.overwrite id tensor)

variable {ε : Type} {id : String} {op : Operator Handle}

theorem stored_same (found : session.operators.find? id = some op) :
    session.stored session.supply id op = session := by
  have same := KeyMap.insert_of_find? found
  simp only [stored, storeOperator, same]

theorem workOn_outcome (found : session.operators.find? id = some op) {work : Working ε Unit}
    (confined : Confined work) (atomic : work.Atomic) (message : ε → String)
    (target : step.target? = some id)
    (leaves : Below op.handles session.supply → (session.perform op work).1 = .ok () →
      step.Leaves session (session.perform op work).2.operator) :
    Outcome session step (session.workOn id op message work) := by
  have held := operator_held found
  have grows : Below session.handles session.supply →
      Grows session.handles session.supply (session.perform op work).2.operator.handles
        (session.perform op work).2.supply := by
    intro below
    have own : Below op.handles session.supply := fun handle member =>
      below handle (held handle member)
    exact (confined.grows (w := ⟨op, session.supply, []⟩) own).widen held
  have kept : ∀ reason, (session.perform op work).1 = .error reason →
      (session.perform op work).2.operator = op ∧
        (session.perform op work).2.supply = session.supply := atomic ⟨op, session.supply, []⟩
  rw [workOn]
  generalize session.perform op work = outcome at leaves grows kept
  rcases outcome with ⟨result, w⟩
  cases result with
  | ok _ =>
    refine .operator rfl id w.operator w.supply target (fun below => ⟨grows below, ?_⟩) rfl
    exact leaves (fun handle member => below handle (held handle member)) rfl
  | error reason =>
    obtain ⟨operator, supply⟩ := kept reason rfl
    refine .failed rfl (Step.changes_of_target target) ?_
    change session.stored w.supply id w.operator = session
    rw [operator, supply, stored_same found]

theorem create_outcome {work : Working ε Unit} (message : ε → String)
    (target : step.target? = some id)
    (made : (session.perform {} work).1 = .ok () → Below session.handles session.supply →
      Grows session.handles session.supply (session.perform {} work).2.operator.handles
        (session.perform {} work).2.supply ∧
      step.Leaves session (session.perform {} work).2.operator) :
    Outcome session step (session.create id message work) := by
  rw [create]
  generalize session.perform {} work = outcome at made
  rcases outcome with ⟨result, w⟩
  cases result with
  | ok _ => exact .operator rfl id w.operator w.supply target (made rfl) rfl
  | error reason => exact .failed rfl (Step.changes_of_target target) rfl

theorem leaves_left (found : session.operators.find? id = some op)
    (below : Below op.handles session.supply) {supplied : SuppliedNode} {node : SourceNode}
    (read : supplied.read = some node) :
    if supplied.isTensorFlow then (Softmax.left session.supply node op).Severed session.supply
    else session.InputsFrom id (Softmax.left session.supply node op) := by
  rw [← SuppliedNode.isTensorFlow_read read]
  cases kind : node.isTensorFlow with
  | true =>
    apply Softmax.severed_left kind (Nat.le_refl _)
    exact fun output member => below output (List.mem_append_right _ member)
  | false =>
    refine ⟨op, found, fun input member => .inl ?_⟩
    rwa [Softmax.inputs_left_of_other kind] at member

theorem storeConst_outcome (id : String) (supplied : Supplied TensorFlow.NodeDef)
    (node : TensorFlow.NodeDef) :
    Outcome session (.const id supplied) (session.storeConst id node) := by
  rw [storeConst]
  cases node.toConst with
  | ok tensor => exact .tensor rfl rfl rfl id tensor rfl
  | error failure =>
    cases failure with
    | refused reason => exact .failed rfl rfl rfl
    | aborted => exact .failed rfl rfl rfl

theorem lower_outcome {known : List Handle} {names : List String}
    (listed : session.handles? names = some known) (id : String) {supplied : SuppliedNode}
    {node : SourceNode} (read : supplied.read = some node) :
    Outcome session (.lower id supplied names)
      (session.create id LoweringError.message (session.register.lower node known)) := by
  apply create_outcome LoweringError.message rfl
  intro ok below
  have held := mem_handles_of_handles? listed
  have given : Below known session.supply := fun handle member =>
    below handle (held handle member)
  have grows := session.register.lower_grows node (w := ⟨{}, session.supply, []⟩) given rfl
  refine ⟨grows.widen held, fun kind => ?_⟩
  rw [← SuppliedNode.isTensorFlow_read read] at kind
  have lowers := (session.register.lower_isOk_iff node known ⟨{}, session.supply, []⟩).mp ok
  have makes := Register.lower_makes lowers known ⟨{}, session.supply, []⟩
  cases node with
  | tensorflow node => exact makes.2.2
  | onnx node | unsupported framework => cases kind

theorem touchInput_outcome (found : session.operators.find? id = some op) {position : Nat}
    {destOp : String} {reply : Reply}
    (answered : session.touchInput id op position destOp = some reply) :
    Outcome session (.touchInput id position destOp) reply := by
  simp only [touchInput, Option.bind_eq_bind, Option.bind_eq_some_iff] at answered
  obtain ⟨handle, _, answered⟩ := answered
  cases answered
  let touched : Handle := ⟨session.supply, handle.tensor.withDestOp destOp⟩
  refine .operator rfl id (op.setInput position touched) (session.supply + 1) rfl ?_ rfl
  intro below
  refine ⟨setInput_grows below (operator_held found) position _, op, found, ?_⟩
  intro input member
  rcases List.mem_or_eq_of_mem_set member with old | rfl
  · exact .inl old
  · exact .inr (Nat.le_refl _)

theorem step?_outcome {reply : Reply} (answered : session.step? step = some reply) :
    Outcome session step reply := by
  cases step with
  | tensor id tensor =>
    cases answered
    exact .tensor rfl rfl rfl id tensor rfl
  | const id supplied =>
    rw [step?] at answered
    cases read : supplied.read TensorFlow.NodeDef.format with
    | none =>
      rw [read] at answered
      cases answered
      exact .failed rfl rfl rfl
    | some node =>
      rw [read] at answered
      cases answered
      exact storeConst_outcome id supplied node
  | register name source =>
    rw [step?] at answered
    cases found : session.register.find? source with
    | none =>
      rw [found] at answered
      cases answered
      exact .kept rfl rfl (Register.change_insertFound_of_none found).symm rfl rfl rfl
    | some extractor =>
      rw [found] at answered
      cases answered
      exact .kept rfl rfl (Register.change_insertFound_of_some found).symm rfl rfl rfl
  | unregister name =>
    cases answered
    exact .kept rfl rfl rfl rfl rfl rfl
  | newOperator id named =>
    simp only [step?, Option.bind_eq_bind, Option.bind_eq_some_iff] at answered
    obtain ⟨inputs, known, outputs, known', answered⟩ := answered
    cases answered
    have held : ∀ handle ∈ inputs ++ outputs, handle ∈ session.handles := by
      intro handle member
      rcases List.mem_append.mp member with input | output
      · exact mem_handles_of_handles? known handle input
      · exact mem_handles_of_handles? known' handle output
    exact .operator rfl id { named with inputs, outputs } session.supply rfl
      (fun below => ⟨.of_subset below held, trivial⟩) rfl
  | extract id supplied =>
    simp only [step?, Option.bind_eq_bind, Option.bind_eq_some_iff] at answered
    obtain ⟨op, found, answered⟩ := answered
    cases read : supplied.read with
    | none =>
      rw [read] at answered
      cases answered
      exact .failed rfl rfl rfl
    | some node =>
      rw [read] at answered
      cases answered
      apply workOn_outcome found (session.register.extract_confined node)
        (session.register.extract_atomic node) LoweringError.message rfl
      intro below ok
      obtain ⟨registered, _⟩ :=
        (session.register.extract_isOk_iff node ⟨op, session.supply, []⟩).mp ok
      rw [perform, Register.operator_extract registered]
      exact leaves_left found below read
  | extractWith extractor id supplied =>
    simp only [step?, Option.bind_eq_bind, Option.bind_eq_some_iff] at answered
    obtain ⟨op, found, answered⟩ := answered
    cases read : supplied.read with
    | none =>
      rw [read] at answered
      cases answered
      exact .failed rfl rfl rfl
    | some node =>
      rw [read] at answered
      cases answered
      apply workOn_outcome found (extractor.run_confined node) (extractor.run_atomic node)
        ExtractionError.message rfl
      intro below _
      rw [perform, Extractor.operator_run]
      exact leaves_left found below read
  | lower id supplied names =>
    simp only [step?, Option.bind_eq_bind, Option.bind_eq_some_iff] at answered
    obtain ⟨known, listed, answered⟩ := answered
    cases read : supplied.read with
    | none =>
      rw [read] at answered
      cases answered
      exact .failed rfl rfl rfl
    | some node =>
      rw [read] at answered
      cases answered
      exact lower_outcome listed id read
  | copyOperator id target =>
    simp only [step?, Option.bind_eq_bind, Option.bind_eq_some_iff] at answered
    obtain ⟨op, found, answered⟩ := answered
    cases answered
    exact .operator rfl target op session.supply rfl
      (fun below => ⟨.of_subset below (operator_held found), op, found, fun _ => .inl⟩) rfl
  | touchInput id position destOp =>
    simp only [step?, Option.bind_eq_bind, Option.bind_eq_some_iff] at answered
    obtain ⟨op, found, answered⟩ := answered
    exact touchInput_outcome found answered
  | touchTensor id destOp =>
    simp only [step?, Option.bind_eq_bind, Option.bind_eq_some_iff] at answered
    obtain ⟨handle, _, answered⟩ := answered
    cases answered
    exact .tensor rfl rfl rfl id _ rfl
  | showOperator id | showTensor id =>
    simp only [step?, Option.bind_eq_bind, Option.bind_eq_some_iff] at answered
    obtain ⟨shown, _, answered⟩ := answered
    cases answered
    exact .kept rfl rfl rfl rfl rfl rfl
  | equalOperators id other | equalTensors id other =>
    simp only [step?, Option.bind_eq_bind, Option.bind_eq_some_iff] at answered
    obtain ⟨first, _, second, _, answered⟩ := answered
    cases answered
    exact .kept rfl rfl rfl rfl rfl rfl

theorem step_outcome (session : Session) (step : Step) :
    Outcome session step (session.step step) := by
  rw [Session.step]
  cases answered : session.step? step with
  | some reply => exact step?_outcome answered
  | none =>
    -- The steps that change the register are always answered.
    refine .failed rfl ?_ rfl
    cases step with
    | register | unregister => cases answered
    | tensor | const | newOperator | extract | extractWith | lower | copyOperator | touchInput
    | touchTensor | showOperator | showTensor | equalOperators | equalTensors => rfl

theorem stepInPlace_outcome (session : Session) (step : Step) :
    Outcome session step (session.stepInPlace step) := by
  rw [stepInPlace]
  rcases session.stepInPlace?_cases step with
    same | ⟨id, position, destOp, op, handle, rfl, _, _, _, same⟩ |
      ⟨id, destOp, handle, rfl, _, _, same⟩
  · rw [same]
    exact session.step_outcome step
  · rw [same]
    exact .overwritten rfl rfl handle.id _ rfl
  · rw [same]
    exact .overwritten rfl rfl handle.id _ rfl

/-- Whatever a session replies to a step, it is one of these outcomes. -/
theorem Answers.outcome {reply : Reply} (answers : session.Answers step reply) :
    Outcome session step reply := by
  rcases answers with rfl | rfl
  · exact session.step_outcome step
  · exact session.stepInPlace_outcome step

theorem Outcome.same_of_failed {reply : Reply} (outcome : Outcome session step reply)
    (failed : reply.answer.succeeded = false) : reply.session = session := by
  cases outcome with
  | failed _ _ same => exact same
  | kept succeeded | tensor succeeded | operator succeeded | overwritten succeeded =>
    cases failed.symm.trans succeeded

/-- Whatever comes of a step, the register is as the changes that the step makes leave it. -/
theorem Outcome.register_eq {reply : Reply} (outcome : Outcome session step reply) :
    reply.session.register = session.register.after step.changes := by
  cases outcome with
  | failed _ idle same => rw [same, idle, Register.after_nil]
  | kept _ _ register => exact register
  | tensor _ _ idle id tensor stored => rw [stored, idle, Register.after_nil, storeTensor]
  | operator _ id op left target _ stored =>
    rw [stored, Step.changes_of_target target, Register.after_nil, Session.stored, storeOperator]
  | overwritten _ touches id tensor changed =>
    rw [changed, Step.changes_of_touches touches, Register.after_nil, overwrite]

/-- After any steps, the register is the first one after the changes that the steps make. -/
theorem register_run (session : Session) (steps : List Step) :
    (((session.run steps).getLast?.map (·.session)).getD session).register =
      session.register.after (steps.flatMap Step.changes) := by
  induction steps generalizing session with
  | nil => rfl
  | cons step steps ih =>
    have later := ih (session.step step).session
    rw [(session.step_outcome step).register_eq, ← Register.after_append] at later
    rw [run, List.flatMap_cons, ← later, List.getLast?_cons]
    cases ((session.step step).session.run steps).getLast? <;> rfl

/-- Extraction is refused exactly for a type that is not registered and for an ONNX node whose first
attribute is missing or no integer, and the operator then is as it was, handles included. Whatever
step fails, the session stays as it is. -/
theorem refused_unchanged (register : Register) (node : SourceNode) (w : Workspace) :
    ((∃ reason, ((register.extract node).run.run w).1 = .error reason) ↔
      register.Refuses w.operator.opType node) ∧
    (∀ reason, ((register.extract node).run.run w).1 = .error reason →
      ((register.extract node).run.run w).2.operator = w.operator) ∧
    ∀ (session : Session) (step : Step) (reply : Reply), session.Answers step reply →
      reply.answer.succeeded = false → reply.session = session := by
  refine ⟨register.extract_error_iff node w, ?_, ?_⟩
  · intro reason failed
    exact (register.extract_atomic node w reason failed).1
  · intro session step reply answers failed
    exact answers.outcome.same_of_failed failed

/-- An attribute whose type code is that of no type: the operator keeps both inputs and the axis
that it had. -/
theorem refused_unchanged_untyped :
    let node : Onnx.Node := { attributes := [{ name := "axis", int := 1, type := 99 }] }
    let data : Handle := ⟨0, { name := "logits" }⟩
    let op : Operator Handle :=
      { name := "prob", opType := "Softmax", inputs := [data, data]
        attrs := .ofList [("axis", .int 2)] }
    let session : Session := { register := .full, operators := .ofList [("op", op)], supply := 1 }
    let step : Step := .extract "op" (.onnx (.given node))
    Register.full.Refuses op.opType (.onnx node) ∧
      ((Register.full.extract (.onnx node)).run.run ⟨op, 1, []⟩).2.operator = op ∧
      (session.step step).answer.succeeded = false ∧ (session.step step).session = session := by
  intro node data op session step
  obtain ⟨refused, kept, unchanged⟩ := refused_unchanged .full (.onnx node) ⟨op, 1, []⟩
  have refuses : Register.full.Refuses op.opType (.onnx node) :=
    .otherAttribute node _ [] rfl (by decide) (by decide)
  obtain ⟨reason, failed⟩ := refused.mpr refuses
  have failed' : (session.step step).answer.succeeded = false := by decide +kernel
  exact ⟨refuses, kept reason failed, failed', unchanged session step _ (.inl rfl) failed'⟩

end Session
end NodeLowering
