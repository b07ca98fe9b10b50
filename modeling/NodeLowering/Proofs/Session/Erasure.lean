import NodeLowering.Proofs.Session.Owned

/-! Sharing cannot be told from contents: but for what is said of it, sessions with handles answer
like sessions without. -/
namespace NodeLowering

def HeldTensor.erase (held : HeldTensor) : HeldTensor := { held with sharedWith := none }

namespace Session

/-- The answer without what it says of sharing. -/
def Answer.erase : Answer → Answer
  | operator op => operator (op.map HeldTensor.erase)
  | extracted op => extracted (op.map HeldTensor.erase)
  | notExtracted reason op => notExtracted reason (op.map HeldTensor.erase)
  | answer => answer

/-- The session whose names and operators own what the handles lead to. -/
def owned (session : Session) : Owned where
  register := session.register
  tensors := session.tensors.map (·.tensor)
  operators := session.operators.map Operator.contents

def Reply.owned (reply : Reply) : Owned.Reply :=
  ⟨reply.answer.erase, reply.log, reply.session.owned⟩

theorem erase_view (session : Session) (op : Operator Handle) :
    (session.view op).map HeldTensor.erase = Owned.view op.contents := by
  simp only [view, Owned.view, Operator.contents, Operator.map, List.map_map]
  rfl

theorem owned_storeTensor (session : Session) (id : String) (tensor : Tensor) :
    (session.storeTensor id tensor).owned = session.owned.storeTensor id tensor := by
  simp only [owned, storeTensor, Owned.storeTensor, KeyMap.map_insert]

theorem owned_storeOperator (session : Session) (id : String) (op : Operator Handle) :
    (session.storeOperator id op).owned = session.owned.storeOperator id op.contents := by
  simp only [owned, storeOperator, Owned.storeOperator, KeyMap.map_insert]

theorem owned_answerOperator (session : Session) (op : Operator Handle) :
    (session.answerOperator op).owned = session.owned.answerOperator op.contents := by
  simp only [answerOperator, reply, Reply.owned, Answer.erase, erase_view]
  rfl

theorem find?_tensors_owned (session : Session) (id : String) :
    session.owned.tensors.find? id = (session.tensors.find? id).map (·.tensor) :=
  KeyMap.find?_map _ _ _

theorem find?_operators_owned (session : Session) (id : String) :
    session.owned.operators.find? id = (session.operators.find? id).map Operator.contents :=
  KeyMap.find?_map _ _ _

theorem tensors?_owned (session : Session) (ids : List String) :
    session.owned.tensors? ids = (session.handles? ids).map (List.map (·.tensor)) := by
  rw [Owned.tensors?, handles?]
  induction ids with
  | nil => rfl
  | cons id rest ih =>
    rw [List.mapM_cons, List.mapM_cons, ih, find?_tensors_owned]
    cases session.tensors.find? id with
    | none => rfl
    | some handle =>
      cases rest.mapM session.tensors.find? with
      | none => rfl
      | some handles => rfl

variable {ε : Type}

/-- Work does to an operator what an effect says of its tensors. -/
structure Performs (session : Session) (op : Operator Handle) (work : Working ε Unit)
    (effect : Effect ε) : Prop where
  result : (session.perform op work).1 = effect.result
  log : (session.perform op work).2.log = effect.log
  contents : (session.perform op work).2.operator.contents = effect.operator

theorem performs_extract (session : Session) (op : Operator Handle) (node : SourceNode) :
    session.Performs op (session.register.extract node)
      (session.register.effect node op.contents) := by
  have run := session.register.run_extract node ⟨op, session.supply, []⟩
  constructor
  case result => exact congrArg Prod.fst run
  case log => exact congrArg (·.2.log) run
  case contents =>
    rw [perform, run]
    exact session.register.contents_after node ⟨op, session.supply, []⟩

theorem performs_run (session : Session) (op : Operator Handle) (extractor : Extractor)
    (node : SourceNode) :
    session.Performs op (extractor.run node) (extractor.effect node op.contents) := by
  have run := extractor.run_run node ⟨op, session.supply, []⟩
  constructor
  case result => exact congrArg Prod.fst run
  case log => exact congrArg (·.2.log) run
  case contents =>
    rw [perform, run]
    exact extractor.contents_after node ⟨op, session.supply, []⟩

theorem performs_lower (session : Session) (node : SourceNode) (inputs : List Handle) :
    session.Performs {} (session.register.lower node inputs)
      (session.register.lowering node (inputs.map (·.tensor))) := by
  rw [Register.lowering]
  cases signed : node.signature with
  | error reason =>
    have run := Register.run_lower_error signed session.register inputs ⟨{}, session.supply, []⟩
    constructor
    case result => exact congrArg Prod.fst run
    case log => exact congrArg (·.2.log) run
    case contents =>
      rw [perform, run]
      rfl
  | ok signature =>
    have contents := signature.contents_make inputs ⟨{}, session.supply, []⟩
    have after := session.register.contents_after node
      (signature.make inputs ⟨{}, session.supply, []⟩)
    have run := Register.run_lower_ok signed session.register inputs ⟨{}, session.supply, []⟩
    rw [Register.run_extract, contents] at run
    rw [contents] at after
    constructor
    case result => exact congrArg Prod.fst run
    case log =>
      refine (congrArg (·.2.log) run).trans ?_
      simp only [Workspace.after, Signature.make, List.nil_append, List.cons_append, List.map_map]
      rfl
    case contents => exact (congrArg (·.2.operator.contents) run).trans after

theorem owned_workOn {session : Session} {op : Operator Handle} {work : Working ε Unit}
    {effect : Effect ε} (performs : session.Performs op work effect) (id : String)
    (message : ε → String) :
    (session.workOn id op message work).owned = session.owned.workOn id message effect := by
  obtain ⟨result, log, contents⟩ := performs
  rw [workOn, Owned.workOn, ← result, ← log, ← contents]
  rcases session.perform op work with ⟨outcome, w⟩
  cases outcome with
  | ok _ =>
    simp only [Reply.owned, Answer.erase, erase_view, owned_storeOperator]
    rfl
  | error reason =>
    simp only [Reply.owned, Answer.erase, erase_view, owned_storeOperator]
    rfl

theorem owned_create {session : Session} {work : Working ε Unit} {effect : Effect ε}
    (performs : session.Performs {} work effect) (id : String) (message : ε → String) :
    (session.create id message work).owned = session.owned.create id message effect := by
  obtain ⟨result, log, contents⟩ := performs
  rw [create, Owned.create, ← result, ← log, ← contents]
  rcases session.perform {} work with ⟨outcome, w⟩
  cases outcome with
  | ok _ =>
    simp only [Reply.owned, Answer.erase, erase_view, owned_storeOperator]
    rfl
  | error reason => rfl

theorem owned_storeConst (session : Session) (id : String) (node : TensorFlow.NodeDef) :
    (session.storeConst id node).owned = session.owned.storeConst id node := by
  rw [storeConst, Owned.storeConst]
  cases node.toConst with
  | ok tensor => exact congrArg (Owned.answerTensor · tensor) (session.owned_storeTensor id tensor)
  | error failure =>
    cases failure with
    | refused reason => rfl
    | aborted => rfl

theorem owned_touchInput (session : Session) (id : String) (op : Operator Handle) (position : Nat)
    (destOp : String) :
    (session.touchInput id op position destOp).map Reply.owned =
      session.owned.touchInput id op.contents position destOp := by
  have inputs : op.contents.inputs[position]? = op.inputs[position]?.map (·.tensor) :=
    List.getElem?_map
  rw [touchInput, Owned.touchInput, inputs]
  cases op.inputs[position]? with
  | none => rfl
  | some handle =>
    change some (Reply.owned (answerOperator _ _)) = some _
    rw [owned_answerOperator, owned_storeOperator]
    simp only [Operator.contents, Operator.map, List.map_set]
    rfl

/-- Each step of a session with handles is the step of the session without. -/
theorem owned_step? (session : Session) (step : Step) :
    (session.step? step).map Reply.owned = session.owned.step? step := by
  cases step with
  | tensor id tensor =>
    exact congrArg (fun owned => some (Owned.answerTensor owned tensor))
      (session.owned_storeTensor id tensor)
  | const id node =>
    rw [step?, Owned.step?]
    cases node.read TensorFlow.NodeDef.format with
    | some node => exact congrArg some (session.owned_storeConst id node)
    | none => rfl
  | register name source =>
    have register : session.owned.register = session.register := rfl
    rw [step?, Owned.step?, register]
    cases session.register.find? source with
    | some extractor => rfl
    | none => rfl
  | unregister name => rfl
  | newOperator id op =>
    rw [step?, Owned.step?, tensors?_owned, tensors?_owned]
    cases session.handles? op.inputs with
    | none => rfl
    | some inputs =>
      cases session.handles? op.outputs with
      | none => rfl
      | some outputs =>
        change some (Reply.owned (answerOperator _ _)) = some _
        rw [owned_answerOperator, owned_storeOperator]
        rfl
  | extract id node =>
    rw [step?, Owned.step?, find?_operators_owned]
    cases session.operators.find? id with
    | none => rfl
    | some op =>
      cases node.read with
      | none => rfl
      | some node => exact congrArg some (owned_workOn (session.performs_extract op node) id _)
  | extractWith extractor id node =>
    rw [step?, Owned.step?, find?_operators_owned]
    cases session.operators.find? id with
    | none => rfl
    | some op =>
      cases node.read with
      | none => rfl
      | some node =>
        exact congrArg some (owned_workOn (session.performs_run op extractor node) id _)
  | lower id node inputs =>
    rw [step?, Owned.step?, tensors?_owned]
    cases session.handles? inputs with
    | none => rfl
    | some handles =>
      cases node.read with
      | none => rfl
      | some node => exact congrArg some (owned_create (session.performs_lower node handles) id _)
  | copyOperator id target =>
    rw [step?, Owned.step?, find?_operators_owned]
    cases session.operators.find? id with
    | none => rfl
    | some op =>
      change some (Reply.owned (answerOperator _ _)) = some _
      rw [owned_answerOperator, owned_storeOperator]
  | touchInput id position destOp =>
    rw [step?, Owned.step?, find?_operators_owned]
    cases session.operators.find? id with
    | none => rfl
    | some op => exact session.owned_touchInput id op position destOp
  | touchTensor id destOp =>
    rw [step?, Owned.step?, find?_tensors_owned]
    cases session.tensors.find? id with
    | none => rfl
    | some handle =>
      have stored := session.owned_storeTensor id (handle.tensor.withDestOp destOp)
      exact congrArg (fun owned => some (Owned.answerTensor owned _)) stored
  | showOperator id =>
    rw [step?, Owned.step?, find?_operators_owned]
    cases session.operators.find? id with
    | none => rfl
    | some op => exact congrArg some (session.owned_answerOperator op)
  | showTensor id =>
    rw [step?, Owned.step?, find?_tensors_owned]
    cases session.tensors.find? id with
    | none => rfl
    | some handle => rfl
  | equalOperators id other =>
    rw [step?, Owned.step?, find?_operators_owned, find?_operators_owned]
    cases session.operators.find? id with
    | none => rfl
    | some op =>
      cases session.operators.find? other with
      | none => rfl
      | some other => rfl
  | equalTensors id other =>
    rw [step?, Owned.step?, find?_tensors_owned, find?_tensors_owned]
    cases session.tensors.find? id with
    | none => rfl
    | some handle =>
      cases session.tensors.find? other with
      | none => rfl
      | some other => rfl

theorem owned_step (session : Session) (step : Step) :
    (session.step step).owned = session.owned.step step := by
  rw [Session.step, Owned.step, ← owned_step?]
  cases session.step? step with
  | none => rfl
  | some reply => rfl

theorem owned_run (session : Session) (steps : List Step) :
    (session.run steps).map Reply.owned = session.owned.run steps := by
  induction steps generalizing session with
  | nil => rfl
  | cons first rest ih =>
    have step := session.owned_step first
    rw [run, Owned.run, List.map_cons, ih, ← step]
    rfl

end Session
end NodeLowering
