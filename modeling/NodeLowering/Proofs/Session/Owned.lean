import NodeLowering.Proofs.Extraction.Effect
import NodeLowering.Session

/-! Sessions without handles: every name and every place of an operator has a tensor of its own. -/
namespace NodeLowering

structure Owned where
  register : Register
  tensors : KeyMap Tensor := .empty
  operators : KeyMap (Operator Tensor) := .empty

namespace Owned
open Session (Step Answer)

structure Reply where
  answer : Answer
  log : List Event
  owned : Owned

def reply (owned : Owned) (answer : Answer) : Reply := ⟨answer, [], owned⟩

/-- An operator as it is shown when nothing is shared. -/
def view (op : Operator Tensor) : Operator HeldTensor := op.map fun tensor => ⟨tensor, none⟩

def storeTensor (owned : Owned) (id : String) (tensor : Tensor) : Owned :=
  { owned with tensors := owned.tensors.insert id tensor }

def storeOperator (owned : Owned) (id : String) (op : Operator Tensor) : Owned :=
  { owned with operators := owned.operators.insert id op }

def answerTensor (owned : Owned) (tensor : Tensor) : Reply := owned.reply (.tensor tensor)

def answerOperator (owned : Owned) (op : Operator Tensor) : Reply :=
  owned.reply (.operator (view op))

def answerRegister (owned : Owned) (found : Bool) : Reply :=
  owned.reply (.registered found owned.register.keys)

/-- Copies of the stored tensors of the given names, if there are such. -/
def tensors? (owned : Owned) (ids : List String) : Option (List Tensor) :=
  ids.mapM owned.tensors.find?

def workOn {ε : Type} (owned : Owned) (id : String) (message : ε → String) (effect : Effect ε) :
    Reply :=
  let owned := owned.storeOperator id effect.operator
  let view := view effect.operator
  match effect.result with
  | .ok _ => ⟨.extracted view, effect.log, owned⟩
  | .error reason => ⟨.notExtracted (message reason) view, effect.log, owned⟩

def create {ε : Type} (owned : Owned) (id : String) (message : ε → String) (effect : Effect ε) :
    Reply :=
  match effect.result with
  | .ok _ =>
      ⟨.operator (view effect.operator), effect.log, owned.storeOperator id effect.operator⟩
  | .error reason => ⟨.refused (message reason), effect.log, owned⟩

def storeConst (owned : Owned) (id : String) (node : TensorFlow.NodeDef) : Reply :=
  match node.toConst with
  | .ok tensor => (owned.storeTensor id tensor).answerTensor tensor
  | .error (.refused reason) => owned.reply (.refused reason.message)
  | .error .aborted => owned.reply .aborted

def touchInput (owned : Owned) (id : String) (op : Operator Tensor) (position : Nat)
    (destOp : String) : Option Reply := do
  let tensor ← op.inputs[position]?
  let op := { op with inputs := op.inputs.set position (tensor.withDestOp destOp) }
  return (owned.storeOperator id op).answerOperator op

def step? (owned : Owned) : Step → Option Reply
  | .tensor id tensor => return (owned.storeTensor id tensor).answerTensor tensor
  | .const id node =>
      return match node.read TensorFlow.NodeDef.format with
        | some node => owned.storeConst id node
        | none => owned.reply .undecodable
  | .register name source =>
      return match owned.register.find? source with
        | some extractor =>
            { owned with register := owned.register.insert name extractor }.answerRegister true
        | none => owned.answerRegister false
  | .unregister name =>
      return { owned with register := owned.register.erase name }.answerRegister
        (owned.register.contains name)
  | .newOperator id op => do
      let inputs ← owned.tensors? op.inputs
      let outputs ← owned.tensors? op.outputs
      let op : Operator Tensor := { op with inputs, outputs }
      return (owned.storeOperator id op).answerOperator op
  | .extract id node => do
      let op ← owned.operators.find? id
      return match node.read with
        | some node => owned.workOn id LoweringError.message (owned.register.effect node op)
        | none => owned.reply .undecodable
  | .extractWith extractor id node => do
      let op ← owned.operators.find? id
      return match node.read with
        | some node => owned.workOn id ExtractionError.message (extractor.effect node op)
        | none => owned.reply .undecodable
  | .lower id node inputs => do
      let inputs ← owned.tensors? inputs
      return match node.read with
        | some node => owned.create id LoweringError.message (owned.register.lowering node inputs)
        | none => owned.reply .undecodable
  | .copyOperator id target => do
      let op ← owned.operators.find? id
      return (owned.storeOperator target op).answerOperator op
  | .touchInput id position destOp => do
      owned.touchInput id (← owned.operators.find? id) position destOp
  | .touchTensor id destOp => do
      let tensor := (← owned.tensors.find? id).withDestOp destOp
      return (owned.storeTensor id tensor).answerTensor tensor
  | .showOperator id => return owned.answerOperator (← owned.operators.find? id)
  | .showTensor id => return owned.answerTensor (← owned.tensors.find? id)
  | .equalOperators id other => do
      let op ← owned.operators.find? id
      return owned.reply (.equal (op.equal (← owned.operators.find? other)))
  | .equalTensors id other => do
      let tensor ← owned.tensors.find? id
      return owned.reply (.equal (tensor.equal (← owned.tensors.find? other)))

def step (owned : Owned) (step : Step) : Reply :=
  (owned.step? step).getD (owned.reply .unknown)

/-- The replies to steps that follow each other. -/
def run (owned : Owned) : List Step → List Reply
  | [] => []
  | first :: rest =>
      let reply := owned.step first
      reply :: reply.owned.run rest

end Owned
end NodeLowering
