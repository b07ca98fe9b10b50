import NodeLowering.Extraction.Event
import NodeLowering.Onnx.Attribute

/-! Extractions work on an operator in place, so that what they have done before they fail stays
done. They tell what they do and may take fresh handles from a supply. -/
namespace NodeLowering

/-- What an extraction works on. -/
structure Workspace where
  operator : Operator Handle
  /-- The id of the next fresh handle. -/
  supply : Nat
  log : List Event

inductive ExtractionError where
  | axis (operator : String) (cause : Onnx.AttributeError)
  deriving DecidableEq

def ExtractionError.message : ExtractionError → String
  | axis operator cause => "Reading softmax axis of " ++ operator ++ ": " ++ cause.message

/-- A computation on a workspace, which keeps what was done to it also when it fails. -/
abbrev Working (ε : Type) := ExceptT ε (StateM Workspace)

abbrev Extraction := Working ExtractionError

namespace Working
variable {ε δ α : Type}

def operator : Working ε (Operator Handle) := return (← get).operator

def setOperator (operator : Operator Handle) : Working ε Unit :=
  modify fun workspace => { workspace with operator }

def setInputs (inputs : List Handle) : Working ε Unit :=
  modify fun workspace =>
    { workspace with operator := { workspace.operator with inputs } }

def setAttr (name : String) (value : Attr) : Working ε Unit :=
  modify fun workspace =>
    { workspace with
      operator :=
        { workspace.operator with attrs := workspace.operator.attrs.insert name value } }

def tell (event : Event) : Working ε Unit :=
  modify fun workspace => { workspace with log := workspace.log ++ [event] }

/-- A handle that is shared with no other. -/
def fresh (tensor : Tensor) : Working ε Handle :=
  modifyGet fun workspace =>
    (⟨workspace.supply, tensor⟩, { workspace with supply := workspace.supply + 1 })

def mapError (f : ε → δ) (work : Working ε α) : Working δ α :=
  ExceptT.mk (Except.mapError f <$> work.run)

end Working
end NodeLowering
