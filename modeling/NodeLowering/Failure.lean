/-! How a computation can end without a result. -/
namespace NodeLowering

inductive Failure (ε : Type) where
  /-- The input is not acceptable, for a reason that is told. -/
  | refused (reason : ε)
  /-- The result would not fit into memory; nothing is told. -/
  | aborted
  deriving DecidableEq

def Failure.map {ε δ : Type} (f : ε → δ) : Failure ε → Failure δ
  | refused reason => refused (f reason)
  | aborted => aborted

end NodeLowering
