import NodeLowering.KeyMap
import NodeLowering.Wire.Scalar

/-! Formats: how a value lies in the records of a message. The format of a message is put together
from the formats of its fields. A message is read by taking up its records one after the other,
so that reading can start from any message, and records of no field change nothing. -/
namespace NodeLowering.Wire

/-- The sum of the sizes of values. -/
def total {α : Type} (size : α → Nat) (values : List α) : Nat :=
  values.foldr (fun value sum => size value + sum) 0

structure Format (σ : Type) where
  /-- The fields, each with the record numbers that belong to it. -/
  fields : List (List Nat)
  /-- The numbers of records that hold a block whatever wire type their key gives. -/
  blocks : List Nat
  /-- The value without any record. -/
  empty : σ
  /-- Takes up a record of one of the fields. Messages in it may have `depth` further levels. -/
  accept : (depth : Nat) → Record → σ → Option σ
  /-- The records of a value, in the order of writing. -/
  records : σ → List Record
  /-- The number of bytes of the records. -/
  size : σ → Nat
  /-- The first value with what the second one sets put over it. -/
  overlay : σ → σ → σ
  /-- The value with each of its fields set back. -/
  clear : σ → σ

namespace Format
variable {α β σ ν : Type}

def numbers (format : Format σ) : List Nat := format.fields.flatten

/-- Takes up any record; those that belong to no field are passed over. -/
def absorb (format : Format σ) (depth : Nat) (value : σ) (record : Record) : Option σ :=
  if record.number ∈ format.numbers then format.accept depth record value else some value

/-- Takes up the records of a byte string one after the other. -/
def merge (format : Format σ) (depth : Nat) (value : σ) (bs : Bytes) : Option σ := do
  let records ← Bytes.items (Record.read format.blocks depth) bs
  records.foldlM (format.absorb depth) value

/-- Levels of messages and groups in a message that are read. -/
def maxDepth : Nat := 100

def update (format : Format σ) (value : σ) (bs : Bytes) : Option σ :=
  format.merge maxDepth value bs

def decode (format : Format σ) (bs : Bytes) : Option σ := format.update format.empty bs

/-- The values after each part of a message, up to the first part that cannot be read. -/
def stages (format : Format σ) (value : σ) : List Bytes → List (Option σ)
  | [] => []
  | part :: rest =>
      match format.update value part with
      | some value => some value :: format.stages value rest
      | none => [none]

def encode (format : Format σ) (value : σ) : Bytes := (format.records value).flatMap Record.write

/-! Fields that hold one value -/

/-- A value that is always written; the last record wins. -/
def scalar (number : Nat) (s : Scalar α) : Format α where
  fields := [[number]]
  blocks := []
  empty := s.zero
  accept _ record _ := record.payload? >>= s.ofPayload
  records x := [.data number (s.toPayload x)]
  size x := Key.size number + s.size x
  overlay _ y := y
  clear _ := s.zero

/-- A message that is always written; records are taken up into the message present. -/
def message (number : Nat) (format : Format α) : Format α where
  fields := [[number]]
  blocks := []
  empty := format.empty
  accept depth record value :=
    match depth, record.payload? with
    | depth + 1, some (.block content) => format.merge depth value content
    | _, _ => none
  records value := [.data number (.block (format.encode value))]
  size value := Key.size number + Payload.blockSize (format.size value)
  overlay := format.overlay
  clear := format.clear

/-- Writes nothing for values that need not be told from an absent one. -/
def omitting (unset : α → Bool) (format : Format α) : Format α where
  fields := format.fields
  blocks := format.blocks
  empty := format.empty
  accept := format.accept
  records value := if unset value then [] else format.records value
  size value := if unset value then 0 else format.size value
  overlay first second := if unset second then first else format.overlay first second
  clear := format.clear

/-- A value that may be absent, and is written whenever it is present. -/
def optional (format : Format α) : Format (Option α) where
  fields := format.fields
  blocks := format.blocks
  empty := none
  accept depth record value :=
    (format.accept depth record (value.getD format.empty)).map some
  records value := value.elim [] format.records
  size value := value.elim 0 format.size
  overlay first second :=
    second.elim first fun value => some (format.overlay (first.getD format.empty) value)
  clear _ := none

/-! Fields that hold lists -/

/-- Each record adds a value. -/
def repeated (format : Format α) : Format (List α) where
  fields := format.fields
  blocks := format.blocks
  empty := []
  accept depth record values := do
    let value ← format.accept depth record format.empty
    return values ++ [value]
  records values := values.flatMap format.records
  size values := total format.size values
  overlay first second := first ++ second.map (format.overlay format.empty)
  clear _ := []

/-- Reads a value that lies in a packed block, without a key of its own. -/
def item (s : Scalar α) (bs : Bytes) : Option (α × Bytes) := do
  let (payload, rest) ← Payload.read s.wire bs
  return (← s.ofPayload payload, rest)

/-- Numbers packed into one block. Records with a single number are accepted too. -/
def packed (number : Nat) (s : Scalar α) : Format (List α) where
  fields := [[number]]
  blocks := []
  empty := []
  accept _ record values :=
    match record.payload? with
    | some (.block content) => (Bytes.items (item s) content).map (values ++ ·)
    | some payload => (s.ofPayload payload).map fun value => values ++ [value]
    | none => none
  records values :=
    if values.isEmpty then []
    else [.data number (.block (values.flatMap fun value => (s.toPayload value).write))]
  size values :=
    if values.isEmpty then 0
    else Key.size number + Payload.blockSize (total s.size values)
  overlay first second := first ++ second
  clear _ := []

/-! Several fields -/

def both (first : Format α) (second : Format β) : Format (α × β) where
  fields := first.fields ++ second.fields
  blocks := first.blocks ++ second.blocks
  empty := (first.empty, second.empty)
  accept depth record value :=
    if record.number ∈ first.numbers then
      (first.accept depth record value.1).map fun x => (x, value.2)
    else (second.accept depth record value.2).map fun y => (value.1, y)
  records value := first.records value.1 ++ second.records value.2
  size value := first.size value.1 + second.size value.2
  overlay x y := (first.overlay x.1 y.1, second.overlay x.2 y.2)
  clear value := (first.clear value.1, second.clear value.2)

/-- The format of a structure whose parts are a tuple. -/
def structured (format : Format α) (make : α → σ) (parts : σ → α) : Format σ where
  fields := format.fields
  blocks := format.blocks
  empty := make format.empty
  accept depth record value := (format.accept depth record (parts value)).map make
  records value := format.records (parts value)
  size value := format.size (parts value)
  overlay x y := make (format.overlay (parts x) (parts y))
  clear value := make (format.clear (parts value))

/-- One alternative of a choice. Records are taken up into the value present if it is of this
alternative, and else into an empty one that replaces it. -/
def alternative (format : Format α) (wrap : α → ν) (unwrap : ν → Option α) : Format (Option ν) where
  fields := format.fields
  blocks := format.blocks
  empty := none
  accept depth record value :=
    (format.accept depth record ((value >>= unwrap).getD format.empty)).map fun x => some (wrap x)
  records value := (value >>= unwrap).elim [] format.records
  size value := (value >>= unwrap).elim 0 format.size
  overlay first second :=
    match second >>= unwrap with
    | none => first
    | some y => some (wrap (format.overlay ((first >>= unwrap).getD format.empty) y))
  clear _ := none

/-- At most one of several alternatives. They are one field. -/
def choice (alternatives : List (Format (Option ν))) : Format (Option ν) where
  fields := [alternatives.flatMap (·.numbers)]
  blocks := alternatives.flatMap (·.blocks)
  empty := none
  accept depth record value := do
    let format ← alternatives.find? fun format => record.number ∈ format.numbers
    format.accept depth record value
  records value := alternatives.flatMap (·.records value)
  size value := total (fun format => format.size value) alternatives
  overlay first second := alternatives.foldl (fun value format => format.overlay value second) first
  clear _ := none

/-! Maps -/

/-- A binding of a map: a message of key and value, either of which is left out if it is empty. -/
def binding (number : Nat) (value : Format α) (unset : α → Bool) : Format (String × α) :=
  message number
    ((omitting (· == "") (scalar 1 .text)).both (omitting unset (message 2 value)))

/-- Each record binds a key; the last record of a key wins. -/
def map (number : Nat) (value : Format α) (unset : α → Bool) : Format (KeyMap α) where
  fields := [[number]]
  blocks := [number]
  empty := .empty
  accept depth record bindings := do
    let format := binding number value unset
    let (key, value) ← format.accept depth record format.empty
    return bindings.insert key value
  records bindings := bindings.toList.flatMap (binding number value unset).records
  size bindings := total (binding number value unset).size bindings.toList
  overlay first second :=
    let format := binding number value unset
    first.insertAll (second.toList.map (format.overlay format.empty))
  clear _ := .empty

end Format
end NodeLowering.Wire
