import NodeLowering.Wire.Varint

/-! Records, the units of an encoded message: a key, which gives a field number and the way the
payload lies in the bytes, and the payload. Groups are read over, so only their number is kept. -/
namespace NodeLowering.Wire

inductive WireType where
  | varint | fixed64 | block | groupStart | groupEnd | fixed32
  deriving DecidableEq

namespace WireType

def code : WireType → Nat
  | varint => 0
  | fixed64 => 1
  | block => 2
  | groupStart => 3
  | groupEnd => 4
  | fixed32 => 5

def ofCode? : Nat → Option WireType
  | 0 => some varint
  | 1 => some fixed64
  | 2 => some block
  | 3 => some groupStart
  | 4 => some groupEnd
  | 5 => some fixed32
  | _ => none

end WireType

structure Key where
  number : Nat
  wire : WireType
  deriving DecidableEq

namespace Key

def write (key : Key) : Bytes := Varint.write (UInt64.ofNat (8 * key.number + key.wire.code))

/-- A key is a number of 32 bits, of which the three lowest are the wire type. No field has
number 0. -/
def read (bs : Bytes) : Option (Key × Bytes) := do
  let (value, rest) ← Varint.read bs
  let wire ← WireType.ofCode? (value.toNat % 8)
  let number := value.toNat / 8
  if value.toNat < 4294967296 ∧ number ≠ 0 then some (⟨number, wire⟩, rest) else none

/-- The size of the keys of a field. The wire type lies in bits that every key has. -/
def size (number : Nat) : Nat := Varint.size (UInt64.ofNat (8 * number))

end Key

inductive Payload where
  | varint (value : UInt64)
  | fixed64 (value : UInt64)
  | block (content : Bytes)
  | fixed32 (value : UInt32)
  deriving DecidableEq

namespace Payload

def wire : Payload → WireType
  | varint _ => .varint
  | fixed64 _ => .fixed64
  | block _ => .block
  | fixed32 _ => .fixed32

def write : Payload → Bytes
  | varint value => Varint.write value
  | fixed64 value => Bytes.ofNat 8 value.toNat
  | block content => Varint.write (UInt64.ofNat content.length) ++ content
  | fixed32 value => Bytes.ofNat 4 value.toNat

/-- Reads the payload of a key. The keys of groups have none. -/
def read : WireType → Bytes → Option (Payload × Bytes)
  | .varint, bs => do
      let (value, rest) ← Varint.read bs
      return (.varint value, rest)
  | .fixed64, bs => do
      let (digits, rest) ← Bytes.cut 8 bs
      return (.fixed64 (UInt64.ofNat digits.toNat), rest)
  | .block, bs => do
      let (length, rest) ← Varint.read bs
      let (content, rest) ← Bytes.cut length.toNat rest
      return (.block content, rest)
  | .fixed32, bs => do
      let (digits, rest) ← Bytes.cut 4 bs
      return (.fixed32 (UInt32.ofNat digits.toNat), rest)
  | .groupStart, _ => none
  | .groupEnd, _ => none

/-- The size of a block with `length` bytes of content. -/
def blockSize (length : Nat) : Nat := Varint.size (UInt64.ofNat length) + length

end Payload

/-- Skips records up to the key that ends group `number`, which is skipped too. -/
def skipGroup (skip : Key → Bytes → Option Bytes) (number : Nat) :
    (limit : Nat) → Bytes → Option Bytes
  | 0, _ => none
  | limit + 1, bs => do
      let (key, rest) ← Key.read bs
      if key.wire = .groupEnd then
        if key.number = number then some rest else none
      else skipGroup skip number limit (← skip key rest)

/-- Skips what follows a key. The records in a group are one level deeper than the group, and
`depth` is the number of levels that are left. -/
def skip : (depth : Nat) → Key → Bytes → Option Bytes
  | 0, _, _ => none
  | depth + 1, key, bs =>
      if key.wire = .groupStart then skipGroup (skip depth) key.number bs.length bs
      else (Payload.read key.wire bs).map (·.2)

inductive Record where
  | data (number : Nat) (payload : Payload)
  | group (number : Nat)
  deriving DecidableEq

namespace Record

def number : Record → Nat
  | data number _ => number
  | group number => number

/-- The payload that a field can take up. -/
def payload? : Record → Option Payload
  | data _ payload => some payload
  | group _ => none

def write : Record → Bytes
  | data number payload => Key.write ⟨number, payload.wire⟩ ++ payload.write
  | group number => Key.write ⟨number, .groupStart⟩ ++ Key.write ⟨number, .groupEnd⟩

/-- Reads a record. Fields in `blocks` hold a block whatever wire type their key gives. -/
def read (blocks : List Nat) (depth : Nat) (bs : Bytes) : Option (Record × Bytes) := do
  let (key, rest) ← Key.read bs
  if key.number ∈ blocks then
    let (payload, rest) ← Payload.read .block rest
    return (.data key.number payload, rest)
  else if key.wire = .groupStart then
    return (.group key.number, ← skip depth key rest)
  else
    let (payload, rest) ← Payload.read key.wire rest
    return (.data key.number payload, rest)

end Record
end NodeLowering.Wire
