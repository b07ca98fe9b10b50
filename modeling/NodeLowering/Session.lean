import NodeLowering.Onnx.Encoding
import NodeLowering.Register
import NodeLowering.TensorFlow.Attribute
import NodeLowering.TensorFlow.Encoding

/-! Sessions: tensors and operators under names, a register, and steps that work on them. Answers
show operators with their tensors and, for each, a stored tensor that it is shared with. Tensors
never change under their handles: who touches a tensor gets a fresh handle to the changed one. -/
namespace NodeLowering

/-- A message that is given as it is or encoded. -/
inductive Supplied (α : Type) where
  | given (value : α)
  | encoded (bytes : Bytes)

def Supplied.read {α : Type} (format : Wire.Format α) : Supplied α → Option α
  | given value => some value
  | encoded bytes => format.decode bytes

inductive SuppliedNode where
  | tensorflow (node : Supplied TensorFlow.NodeDef)
  | onnx (node : Supplied Onnx.Node)
  | unsupported (framework : String)

def SuppliedNode.read : SuppliedNode → Option SourceNode
  | tensorflow node => (node.read TensorFlow.NodeDef.format).map .tensorflow
  | onnx node => (node.read Onnx.Node.format).map .onnx
  | unsupported framework => some (.unsupported (.ofId framework))

/-- A tensor of an operator, and the first name of a stored tensor that it is shared with. -/
structure HeldTensor where
  tensor : Tensor
  sharedWith : Option String

namespace Session

inductive Step where
  | tensor (id : String) (tensor : Tensor)
  | const (id : String) (node : Supplied TensorFlow.NodeDef)
  /-- Registers the extractor of `source` under another name. -/
  | register (name source : String)
  | unregister (name : String)
  /-- Stores an operator over stored tensors. -/
  | newOperator (id : String) (operator : Operator String)
  /-- Extracts attributes by the register. -/
  | extract (id : String) (node : SuppliedNode)
  /-- Extracts attributes by an extractor, whatever the register says. -/
  | extractWith (extractor : Extractor) (id : String) (node : SuppliedNode)
  | lower (id : String) (node : SuppliedNode) (inputs : List String)
  | copyOperator (id target : String)
  | touchInput (id : String) (position : Nat) (destOp : String)
  | touchTensor (id destOp : String)
  | showOperator (id : String)
  | showTensor (id : String)
  | equalOperators (id other : String)
  | equalTensors (id other : String)

inductive Answer where
  | tensor (tensor : Tensor)
  | operator (operator : Operator HeldTensor)
  | registered (found : Bool) (opTypes : List String)
  | extracted (operator : Operator HeldTensor)
  | notExtracted (reason : String) (operator : Operator HeldTensor)
  | equal (isEqual : Bool)
  | refused (reason : String)
  | aborted
  | undecodable
  /-- A name or a position that the session does not know. -/
  | unknown

end Session

structure Session where
  register : Register
  tensors : KeyMap Handle := .empty
  operators : KeyMap (Operator Handle) := .empty
  /-- The id of the next fresh handle. -/
  supply : Nat := 0

namespace Session

structure Reply where
  answer : Answer
  log : List Event
  session : Session

/-- An answer that nothing was told about. -/
def reply (session : Session) (answer : Answer) : Reply := ⟨answer, [], session⟩

def sharedWith? (session : Session) (handle : Handle) : Option String :=
  (session.tensors.toList.find? (·.2.id == handle.id)).map (·.1)

def view (session : Session) (op : Operator Handle) : Operator HeldTensor :=
  op.map fun handle => ⟨handle.tensor, session.sharedWith? handle⟩

/-- Stores a tensor under a handle of its own. -/
def storeTensor (session : Session) (id : String) (tensor : Tensor) : Session :=
  { session with
    tensors := session.tensors.insert id ⟨session.supply, tensor⟩
    supply := session.supply + 1 }

def storeOperator (session : Session) (id : String) (op : Operator Handle) : Session :=
  { session with operators := session.operators.insert id op }

def answerTensor (session : Session) (tensor : Tensor) : Reply := session.reply (.tensor tensor)

def answerOperator (session : Session) (op : Operator Handle) : Reply :=
  session.reply (.operator (session.view op))

def answerRegister (session : Session) (found : Bool) : Reply :=
  session.reply (.registered found session.register.keys)

/-- The stored tensors of the given names, if there are such. -/
def handles? (session : Session) (ids : List String) : Option (List Handle) :=
  ids.mapM session.tensors.find?

def perform {ε : Type} (session : Session) (op : Operator Handle) (work : Working ε Unit) :
    Except ε Unit × Workspace :=
  work.run.run ⟨op, session.supply, []⟩

/-- Works on a stored operator. It stays as the work leaves it, also when the work fails. -/
def workOn {ε : Type} (session : Session) (id : String) (op : Operator Handle)
    (message : ε → String) (work : Working ε Unit) : Reply :=
  let (result, workspace) := session.perform op work
  let session := { session with supply := workspace.supply }.storeOperator id workspace.operator
  let view := session.view workspace.operator
  match result with
  | .ok _ => ⟨.extracted view, workspace.log, session⟩
  | .error reason => ⟨.notExtracted (message reason) view, workspace.log, session⟩

/-- Works on a new operator, which is stored if the work succeeds. -/
def create {ε : Type} (session : Session) (id : String) (message : ε → String)
    (work : Working ε Unit) : Reply :=
  let (result, workspace) := session.perform {} work
  match result with
  | .ok _ =>
      let session := { session with supply := workspace.supply }.storeOperator id workspace.operator
      ⟨.operator (session.view workspace.operator), workspace.log, session⟩
  | .error reason => ⟨.refused (message reason), workspace.log, session⟩

def storeConst (session : Session) (id : String) (node : TensorFlow.NodeDef) : Reply :=
  match node.toConst with
  | .ok tensor => (session.storeTensor id tensor).answerTensor tensor
  | .error (.refused reason) => session.reply (.refused reason.message)
  | .error .aborted => session.reply .aborted

/-- Gives input `position` of an operator a tensor of its own with a further consumer. -/
def touchInput (session : Session) (id : String) (op : Operator Handle) (position : Nat)
    (destOp : String) : Option Reply := do
  let handle ← op.inputs[position]?
  let touched : Handle := ⟨session.supply, handle.tensor.withDestOp destOp⟩
  let op := { op with inputs := op.inputs.set position touched }
  let session := { session with supply := session.supply + 1 }.storeOperator id op
  return session.answerOperator op

/-- Answers a step, if the session knows what the step names. -/
def step? (session : Session) : Step → Option Reply
  | .tensor id tensor => return (session.storeTensor id tensor).answerTensor tensor
  | .const id node =>
      return match node.read TensorFlow.NodeDef.format with
        | some node => session.storeConst id node
        | none => session.reply .undecodable
  | .register name source =>
      return match session.register.find? source with
        | some extractor =>
            { session with register := session.register.insert name extractor }.answerRegister true
        | none => session.answerRegister false
  | .unregister name =>
      return { session with register := session.register.erase name }.answerRegister
        (session.register.contains name)
  | .newOperator id op => do
      let inputs ← session.handles? op.inputs
      let outputs ← session.handles? op.outputs
      let op : Operator Handle := { op with inputs, outputs }
      return (session.storeOperator id op).answerOperator op
  | .extract id node => do
      let op ← session.operators.find? id
      return match node.read with
        | some node => session.workOn id op LoweringError.message (session.register.extract node)
        | none => session.reply .undecodable
  | .extractWith extractor id node => do
      let op ← session.operators.find? id
      return match node.read with
        | some node => session.workOn id op ExtractionError.message (extractor.run node)
        | none => session.reply .undecodable
  | .lower id node inputs => do
      let inputs ← session.handles? inputs
      return match node.read with
        | some node =>
            session.create id LoweringError.message (session.register.lower node inputs)
        | none => session.reply .undecodable
  | .copyOperator id target => do
      let op ← session.operators.find? id
      return (session.storeOperator target op).answerOperator op
  | .touchInput id position destOp => do
      session.touchInput id (← session.operators.find? id) position destOp
  | .touchTensor id destOp => do
      let tensor := (← session.tensors.find? id).tensor.withDestOp destOp
      return (session.storeTensor id tensor).answerTensor tensor
  | .showOperator id => return session.answerOperator (← session.operators.find? id)
  | .showTensor id => return session.answerTensor (← session.tensors.find? id).tensor
  | .equalOperators id other => do
      let op ← session.operators.find? id
      return session.reply (.equal (op.contents.equal (← session.operators.find? other).contents))
  | .equalTensors id other => do
      let handle ← session.tensors.find? id
      return session.reply (.equal (handle.tensor.equal (← session.tensors.find? other).tensor))

def step (session : Session) (step : Step) : Reply :=
  (session.step? step).getD (session.reply .unknown)

/-- The replies to steps that follow each other. -/
def run (session : Session) : List Step → List Reply
  | [] => []
  | first :: rest =>
      let reply := session.step first
      reply :: reply.session.run rest

end Session
end NodeLowering
