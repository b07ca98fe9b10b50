import NodeLowering.Operator
import NodeLowering.SourceNode
import NodeLowering.Text.Quoted

/-! What is told about the making of an operator. Events name the operator by its title. -/
namespace NodeLowering

inductive Event where
  | created (operator : String) (inputs : List String)
  | extracting (operator : String) (framework : Framework)
  | extracted (operator name : String) (value : Attr)
  | noConstantAxis (operator : String) (fallback : Int64)
  | noDataInput (operator : String)
  | nothingToExtract (operator : String) (framework : Framework)
  | axis (operator : String) (value : Int64)
  deriving DecidableEq

namespace Event

inductive Level where
  | debug | trace
  deriving DecidableEq

def level : Event → Level
  | extracting _ _ => .debug
  | _ => .trace

def message : Event → String
  | created op inputs => "Operator " ++ op ++ " with inputs " ++ Text.quotedList inputs
  | extracting op framework =>
      "Extracting attributes of " ++ op ++ " from " ++ framework.id ++ " node"
  | extracted op name value => op ++ ": " ++ name ++ "=" ++ value.text
  | noConstantAxis op fallback =>
      op ++ ": no constant axis input, falling back to " ++ toString fallback.toInt
  | noDataInput op => op ++ ": no data input, inputs left empty"
  | nothingToExtract op framework =>
      op ++ ": nothing to extract from a " ++ framework.id ++ " node"
  | axis op value => op ++ ": axis " ++ toString value.toInt

end Event
end NodeLowering
