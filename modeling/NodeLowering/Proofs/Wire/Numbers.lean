import NodeLowering.Proofs.Wire.Grammar
import NodeLowering.Proofs.Wire.Messages

/-! Lists of numbers. A record of such a list holds one number, or a block with any number of them.
What a message has of a list after reading does not depend on how the numbers were put into
records. The law for the fields of a message is kept by the ways of putting formats together. -/
namespace NodeLowering
namespace Wire

/-- What the numbers of a list are. -/
inductive NumberType where
  | int32 | int64 | bool | float | double

namespace NumberType

abbrev Value : NumberType → Type
  | int32 => Int32
  | int64 => Int64
  | bool => Bool
  | float => Binary32
  | double => Binary64

def scalar : (type : NumberType) → Scalar type.Value
  | int32 => .int32
  | int64 => .int64
  | bool => .bool
  | float => .float
  | double => .double

/-- How a number lies in the bytes. -/
def wire : NumberType → WireType
  | int32 | int64 | bool => .varint
  | float => .fixed32
  | double => .fixed64

/-- The byte strings that stand for a number. Integers and truth values are numbers of 64 bits,
which may take more bytes than they need. An integer of 32 bits keeps the lowest of these, and a
truth value whether all are zero. Floating point numbers lie there bit by bit. -/
def Spells : (type : NumberType) → Bytes → type.Value → Prop
  | int32, bs, x => ∃ value, Varint.Spells bs value ∧ x.toInt = Int.bmod value.toNat 4294967296
  | int64, bs, x =>
      ∃ value, Varint.Spells bs value ∧ x.toInt = Int.bmod value.toNat 18446744073709551616
  | bool, bs, b => ∃ value, Varint.Spells bs value ∧ (b = true ↔ value ≠ 0)
  | float, bs, x => bs.length = 4 ∧ x.bits.toNat = bs.toNat
  | double, bs, x => bs.length = 8 ∧ x.bits.toNat = bs.toNat

/-- A record of a list of numbers. -/
inductive Run (type : NumberType) (number : Nat) : Bytes → List type.Value → Prop
  | single {front back : Bytes} {x : type.Value} (key : Key.Spells front ⟨number, type.wire⟩)
      (spelled : type.Spells back x) : Run type number (front ++ back) [x]
  | packed {front size content : Bytes} {length : UInt64} {xs : List type.Value}
      (key : Key.Spells front ⟨number, .block⟩) (sized : Varint.Spells size length)
      (exact : length.toNat = content.length) (split : Bytes.Spell type.Spells content xs) :
      Run type number (front ++ (size ++ content)) xs

theorem scalar_wire (type : NumberType) : type.scalar.wire = type.wire := by
  cases type <;> rfl

theorem scalar_plain (type : NumberType) : type.scalar.Plain := by
  cases type with
  | int32 => exact Scalar.int32_plain
  | int64 => exact Scalar.int64_plain
  | bool => exact Scalar.bool_plain
  | float => exact Scalar.float_plain
  | double => exact Scalar.double_plain

theorem wire_ne_block (type : NumberType) : type.wire ≠ .block := by
  cases type <;> decide

end NumberType

theorem Payload.exists_varint {bs : Bytes} {taken : Payload → Prop} :
    (∃ payload : Payload, (payload.wire = .varint ∧ payload.Spells bs) ∧ taken payload) ↔
      ∃ value, Varint.Spells bs value ∧ taken (.varint value) := by
  constructor
  · rintro ⟨payload, ⟨wire, spelled⟩, found⟩
    cases spelled with
    | varint spelled => exact ⟨_, spelled, found⟩
    | _ => contradiction
  · rintro ⟨value, spelled, found⟩
    exact ⟨_, ⟨rfl, .varint spelled⟩, found⟩

theorem Payload.exists_fixed32 {bs : Bytes} {taken : Payload → Prop} :
    (∃ payload : Payload, (payload.wire = .fixed32 ∧ payload.Spells bs) ∧ taken payload) ↔
      bs.length = 4 ∧ taken (.fixed32 (UInt32.ofNat bs.toNat)) := by
  constructor
  · rintro ⟨payload, ⟨wire, spelled⟩, found⟩
    cases spelled with
    | fixed32 length => exact ⟨length, found⟩
    | _ => contradiction
  · rintro ⟨length, found⟩
    exact ⟨_, ⟨rfl, .fixed32 length⟩, found⟩

theorem Payload.exists_fixed64 {bs : Bytes} {taken : Payload → Prop} :
    (∃ payload : Payload, (payload.wire = .fixed64 ∧ payload.Spells bs) ∧ taken payload) ↔
      bs.length = 8 ∧ taken (.fixed64 (UInt64.ofNat bs.toNat)) := by
  constructor
  · rintro ⟨payload, ⟨wire, spelled⟩, found⟩
    cases spelled with
    | fixed64 length => exact ⟨length, found⟩
    | _ => contradiction
  · rintro ⟨length, found⟩
    exact ⟨_, ⟨rfl, .fixed64 length⟩, found⟩

namespace NumberType

/-- A byte string stands for the number that the scalar makes of the payload it spells. -/
theorem spells_iff {type : NumberType} {bs : Bytes} {x : type.Value} :
    type.Spells bs x ↔ ∃ payload : Payload, (payload.wire = type.wire ∧ payload.Spells bs) ∧
      type.scalar.ofPayload payload = some x := by
  cases type with
  | int32 =>
    refine (exists_congr fun value => and_congr_right fun _ => ?_).trans
      Payload.exists_varint.symm
    have low : value.toUInt32.toInt32.toInt = Int.bmod value.toNat 4294967296 :=
      BitVec.toInt_setWidth value.toBitVec
    rw [scalar, Scalar.int32, Option.some_inj, ← Int32.toInt_inj, low, eq_comm]
  | int64 =>
    refine (exists_congr fun value => and_congr_right fun _ => ?_).trans
      Payload.exists_varint.symm
    have whole : value.toInt64.toInt = Int.bmod value.toNat 18446744073709551616 :=
      BitVec.toInt_eq_toNat_bmod value.toBitVec
    rw [scalar, Scalar.int64, Option.some_inj, ← Int64.toInt_inj, whole, eq_comm]
  | bool =>
    refine (exists_congr fun value => and_congr_right fun _ => ?_).trans
      Payload.exists_varint.symm
    rw [scalar, Scalar.bool, Option.some_inj, ← bne_iff_ne, ← Bool.eq_iff_iff, eq_comm]
  | float =>
    refine (and_congr_right fun length => ?_).trans Payload.exists_fixed32.symm
    have small : bs.toNat < Bytes.capacity 4 := length ▸ Bytes.toNat_lt bs
    obtain ⟨bits⟩ := x
    rw [scalar, Scalar.float, Option.some_inj, Binary32.mk.injEq, ← UInt32.toNat_inj,
      UInt32.toNat_ofNat_of_lt' small, eq_comm]
  | double =>
    refine (and_congr_right fun length => ?_).trans Payload.exists_fixed64.symm
    have small : bs.toNat < Bytes.capacity 8 := length ▸ Bytes.toNat_lt bs
    obtain ⟨bits⟩ := x
    rw [scalar, Scalar.double, Option.some_inj, Binary64.mk.injEq, ← UInt64.toNat_inj,
      UInt64.toNat_ofNat_of_lt' small, eq_comm]

/-- In a block, numbers are read one behind the other. -/
theorem item_reads (type : NumberType) :
    Bytes.Reads (Format.item type.scalar) type.Spells where
  nonempty spelled := by
    obtain ⟨payload, spelled, _⟩ := spells_iff.mp spelled
    exact (Payload.read_reads type.wire).nonempty spelled
  eq_some_iff {bs x rest} := by
    rw [Format.item, scalar_wire]
    constructor
    · intro h
      obtain ⟨⟨payload, left⟩, read, kept⟩ := Option.bind_eq_some_iff.mp h
      obtain ⟨y, taken, same⟩ := Option.bind_eq_some_iff.mp kept
      cases same
      obtain ⟨front, spelled, rfl⟩ := (Payload.read_reads type.wire).eq_some_iff.mp read
      exact ⟨front, spells_iff.mpr ⟨payload, spelled, taken⟩, rfl⟩
    · rintro ⟨front, spelled, rfl⟩
      obtain ⟨payload, spelled, taken⟩ := spells_iff.mp spelled
      simp [(Payload.read_reads type.wire).append spelled rest, taken]

/-- Every payload of the wire type stands for one number. -/
theorem existsUnique_of_read {type : NumberType} {bs rest : Bytes} {payload : Payload}
    (read : Payload.read type.wire bs = some (payload, rest)) :
    ∃ front, bs = front ++ rest ∧ ∃! x, type.Spells front x := by
  obtain ⟨front, spelled, rfl⟩ := (Payload.read_reads type.wire).eq_some_iff.mp read
  obtain ⟨x, taken⟩ := Option.isSome_iff_exists.mp
    ((type.scalar_plain payload).mpr (spelled.1.trans type.scalar_wire.symm))
  have stands := spells_iff.mpr ⟨payload, spelled, taken⟩
  refine ⟨front, rfl, x, stands, fun y other => ?_⟩
  exact (type.item_reads.unique other stands (rfl : front ++ rest = _)).1

end NumberType

namespace Format
variable {α β σ ν : Type}

/-- A record of the number adds its numbers to a list in the value. -/
structure Appends (format : Format σ) (number : Nat) (s : Scalar α) (append : σ → List α → σ) :
    Prop where
  known : number ∈ format.numbers
  unblocked : number ∉ format.blocks
  -- What a record adds does not depend on the value, so it shows in an empty list.
  accept : ∀ payload depth value, format.accept depth (.data number payload) value =
    ((packed number s).accept depth (.data number payload) []).map (append value)
  append_nil : ∀ value, append value [] = value
  append_append : ∀ value xs ys, append (append value xs) ys = append value (xs ++ ys)

theorem packed_appends (number : Nat) (s : Scalar α) :
    Appends (packed number s) number s (· ++ ·) where
  known := List.mem_singleton_self number
  unblocked := List.not_mem_nil
  accept payload depth values := by
    cases payload <;> simp [packed, Record.payload?, Function.comp_def]
  append_nil := List.append_nil
  append_append := List.append_assoc

theorem Appends.first {first : Format α} {number : Nat} {s : Scalar ν} {append : α → List ν → α}
    (appends : Appends first number s append) {second : Format β}
    (unblocked : number ∉ second.blocks := by decide) :
    Appends (first.both second) number s fun value xs => (append value.1 xs, value.2) where
  known := (both_numbers _ _).symm ▸ List.mem_append_left _ appends.known
  unblocked := fun member => (List.mem_append.mp member).elim appends.unblocked unblocked
  accept payload depth value := by
    rw [accept_both_first appends.known, appends.accept, Option.map_map]
    rfl
  append_nil value := by rw [appends.append_nil]
  append_append value xs ys := by rw [appends.append_append]

theorem Appends.second {second : Format β} {number : Nat} {s : Scalar ν} {append : β → List ν → β}
    (appends : Appends second number s append) {first : Format α}
    (foreign : number ∉ first.numbers := by decide)
    (unblocked : number ∉ first.blocks := by decide) :
    Appends (first.both second) number s fun value xs => (value.1, append value.2 xs) where
  known := (both_numbers _ _).symm ▸ List.mem_append_right _ appends.known
  unblocked := fun member => (List.mem_append.mp member).elim unblocked appends.unblocked
  accept payload depth value := by
    rw [accept_both_second foreign, appends.accept, Option.map_map]
    rfl
  append_nil value := by rw [appends.append_nil]
  append_append value xs ys := by rw [appends.append_append]

theorem Appends.structured {format : Format α} {number : Nat} {s : Scalar ν}
    {inner : α → List ν → α} (appends : Appends format number s inner) {make : α → σ}
    {parts : σ → α} {append : σ → List ν → σ}
    (append_eq : ∀ value xs, append value xs = make (inner (parts value) xs) := by
      exact fun _ _ => rfl)
    (make_parts : ∀ value, make (parts value) = value := by exact fun _ => rfl)
    (parts_make : ∀ x, parts (make x) = x := by exact fun _ => rfl) :
    Appends (format.structured make parts) number s append where
  known := appends.known
  unblocked := appends.unblocked
  accept payload depth value := by
    change (format.accept depth (.data number payload) (parts value)).map make = _
    rw [appends.accept, Option.map_map]
    exact congrArg (Option.map · _) (funext fun xs => (append_eq value xs).symm)
  append_nil value := by rw [append_eq, appends.append_nil, make_parts]
  append_append value xs ys := by
    rw [append_eq, append_eq, append_eq, parts_make, appends.append_append]

end Format

/-- A record of numbers is one record, and what a list takes up from it are the numbers. -/
theorem NumberType.Run.exists_payload {type : NumberType} {number : Nat} {bs : Bytes}
    {xs : List type.Value} (run : type.Run number bs xs) (depth : Nat) :
    ∃ payload, Record.Spells (depth + 1) bs (.data number payload) ∧ ∀ level,
      (Format.packed number type.scalar).accept level (.data number payload) [] = some xs := by
  cases run with
  | single key spelled =>
    obtain ⟨payload, ⟨wire, spelled⟩, taken⟩ := spells_iff.mp spelled
    refine ⟨payload, .data (wire ▸ key) spelled, fun _ => ?_⟩
    have numeric := wire ▸ type.wire_ne_block
    cases payload with
    | block content => exact absurd rfl numeric
    | _ => simp [Format.packed, Record.payload?, taken]
  | @packed _ _ content _ xs key sized exact split =>
    refine ⟨.block content, .data key (.block sized exact), fun _ => ?_⟩
    have items : Bytes.items (Format.item type.scalar) content = some xs :=
      type.item_reads.items_eq_some_iff.mpr split
    simp [Format.packed, Record.payload?, items]

namespace Format.Appends
variable {σ : Type} {format : Format σ} {number depth : Nat} {type : NumberType}
  {append : σ → List type.Value → σ}

/-- Reading goes on behind a record of the list with its numbers added. -/
theorem merge_run (appends : Appends format number type.scalar append) {bs : Bytes}
    {xs : List type.Value} (run : type.Run number bs xs) (value : σ) (rest : Bytes) :
    format.merge (depth + 1) value (bs ++ rest) =
      format.merge (depth + 1) (append value xs) rest := by
  obtain ⟨payload, spelled, taken⟩ := run.exists_payload depth
  have read := spelled.read_append (fun member => absurd member appends.unblocked) rest
  rw [merge_append read, absorb, Record.number, if_pos appends.known, appends.accept, taken]
  rfl

/-- However the numbers are put into records, they are added to the list in their order. -/
theorem merge_runs (appends : Appends format number type.scalar append) {bs : Bytes}
    {runs : List (List type.Value)} (split : Bytes.Spell (type.Run number) bs runs) (value : σ) :
    format.merge (depth + 1) value bs = some (append value runs.flatten) := by
  -- The induction is on the records, since a record may add no number at all.
  induction runs generalizing bs value with
  | nil =>
    rw [Bytes.spell_nil.mp split, List.flatten_nil, appends.append_nil]
    rfl
  | cons xs runs ih =>
    obtain ⟨front, back, run, later, rfl⟩ := Bytes.spell_cons.mp split
    rw [appends.merge_run run, ih later, appends.append_append, List.flatten_cons]

end Format.Appends
end Wire

/-- The lists of numbers in messages. -/
inductive NumberField where
  | tensorFloats | tensorDoubles | tensorInts | tensorInt64s | tensorBools
  | listInts | listFloats | listBools | listTypes
  | attributeFloats | attributeInts

namespace NumberField
open Wire Wire.Format

abbrev message : NumberField → MessageType
  | tensorFloats | tensorDoubles | tensorInts | tensorInt64s | tensorBools => .tensorProto
  | listInts | listFloats | listBools | listTypes => .listValue
  | attributeFloats | attributeInts => .onnxAttribute

abbrev type : NumberField → NumberType
  | tensorFloats | listFloats | attributeFloats => .float
  | tensorDoubles => .double
  | tensorInts | listTypes => .int32
  | tensorInt64s | listInts | attributeInts => .int64
  | tensorBools | listBools => .bool

def number : NumberField → Nat
  | tensorFloats => 5
  | tensorDoubles => 6
  | tensorInts => 7
  | tensorInt64s => 10
  | tensorBools => 11
  | listInts => 3
  | listFloats => 4
  | listBools => 5
  | listTypes => 6
  | attributeFloats => 7
  | attributeInts => 8

/-- The message with more numbers in the list and all else as it is. -/
def append : (field : NumberField) → field.message.Value → List field.type.Value →
    field.message.Value
  | tensorFloats, tensor, xs => { tensor with floats := tensor.floats ++ xs }
  | tensorDoubles, tensor, xs => { tensor with doubles := tensor.doubles ++ xs }
  | tensorInts, tensor, xs => { tensor with ints := tensor.ints ++ xs }
  | tensorInt64s, tensor, xs => { tensor with int64s := tensor.int64s ++ xs }
  | tensorBools, tensor, xs => { tensor with bools := tensor.bools ++ xs }
  | listInts, list, xs => { list with ints := list.ints ++ xs }
  | listFloats, list, xs => { list with floats := list.floats ++ xs }
  | listBools, list, xs => { list with bools := list.bools ++ xs }
  | listTypes, list, xs => { list with types := list.types ++ xs }
  | attributeFloats, attr, xs => { attr with floats := attr.floats ++ xs }
  | attributeInts, attr, xs => { attr with ints := attr.ints ++ xs }

theorem format_appends (field : NumberField) :
    Appends field.message.format field.number field.type.scalar field.append := by
  cases field with
  | tensorFloats =>
    exact show Appends TensorFlow.TensorProto.format 5 .float _ from
      .structured <| .second <| .second <| .second <| .second <| .first <| packed_appends 5 _
  | tensorDoubles =>
    exact show Appends TensorFlow.TensorProto.format 6 .double _ from
      .structured <| .second <| .second <| .second <| .second <| .second <| .first <|
        packed_appends 6 _
  | tensorInts =>
    exact show Appends TensorFlow.TensorProto.format 7 .int32 _ from
      .structured <| .second <| .second <| .second <| .second <| .second <| .second <| .first <|
        packed_appends 7 _
  | tensorInt64s =>
    exact show Appends TensorFlow.TensorProto.format 10 .int64 _ from
      .structured <| .second <| .second <| .second <| .second <| .second <| .second <| .second <|
        .second <| .first <| packed_appends 10 _
  | tensorBools =>
    exact show Appends TensorFlow.TensorProto.format 11 .bool _ from
      .structured <| .second <| .second <| .second <| .second <| .second <| .second <| .second <|
        .second <| .second <| packed_appends 11 _
  | listInts =>
    exact show Appends TensorFlow.ListValue.format 3 .int64 _ from
      .structured <| .second <| .first <| packed_appends 3 _
  | listFloats =>
    exact show Appends TensorFlow.ListValue.format 4 .float _ from
      .structured <| .second <| .second <| .first <| packed_appends 4 _
  | listBools =>
    exact show Appends TensorFlow.ListValue.format 5 .bool _ from
      .structured <| .second <| .second <| .second <| .first <| packed_appends 5 _
  | listTypes =>
    exact show Appends TensorFlow.ListValue.format 6 .int32 _ from
      .structured <| .second <| .second <| .second <| .second <| .first <| packed_appends 6 _
  | attributeFloats =>
    exact show Appends Onnx.Attribute.format 7 .float _ from
      .structured <| .second <| .second <| .second <| .second <| .first <| packed_appends 7 _
  | attributeInts =>
    exact show Appends Onnx.Attribute.format 8 .int64 _ from
      .structured <| .second <| .second <| .second <| .second <| .second <| .first <|
        packed_appends 8 _

/-- Numbers may be put into records as one likes. Reading the records of a list, single numbers and
blocks in any mixture, adds just their numbers to the list, in order, and changes nothing else.
Blocks may be empty. A payload of the field's wire type stands for one number, however it is
spelled. -/
theorem update_runs (field : NumberField) (present : field.message.Value) :
    (∀ (bs : Bytes) (runs : List (List field.type.Value)),
      Bytes.Spell (field.type.Run field.number) bs runs →
      field.message.format.update present bs = some (field.append present runs.flatten)) ∧
    ∀ bs payload rest, Payload.read field.type.wire bs = some (payload, rest) →
      ∃ front, bs = front ++ rest ∧ ∃! x, field.type.Spells front x :=
  ⟨fun _ _ split => field.format_appends.merge_runs split present,
    fun _ _ _ read => NumberType.existsUnique_of_read read⟩

/-- A block without numbers, a block with 3 in two bytes and a number of more than 32 bits, and -1
with a key of its own that takes two bytes. -/
theorem update_runs_mixture :
    let none : Bytes := [0x3A, 0]
    let wide : Bytes := [0x85, 0x80, 0x80, 0x80, 0x10]
    let block : Bytes := [0x3A, 0x87, 0, 0x83, 0] ++ wide
    let single : Bytes := [0xB8, 0, 0xFF, 0xFF, 0xFF, 0xFF, 0xFF, 0xFF, 0xFF, 0xFF, 0xFF, 1]
    let runs : List (List Int32) := [[], [3, 5], [-1]]
    let present : TensorFlow.TensorProto := { dtype := 3, ints := [4] }
    Bytes.Spell (tensorInts.type.Run tensorInts.number) (none ++ (block ++ (single ++ []))) runs ∧
      tensorInts.message.format.update present (none ++ (block ++ (single ++ []))) =
        some (tensorInts.append present [3, 5, -1]) ∧
      Payload.read tensorInts.type.wire (wide ++ [7]) = some (.varint 4294967301, [7]) ∧
      ∃ front, wide ++ [7] = front ++ [7] ∧ ∃! x, tensorInts.type.Spells front x := by
  intro none wide block single runs present
  have blockKey : Key.Spells [0x3A] ⟨7, .block⟩ := Key.read_reads.spells_of_read (by decide)
  have numberKey : Key.Spells [0xB8, 0] ⟨7, .varint⟩ := Key.read_reads.spells_of_read (by decide)
  have zero : Varint.Spells [0] 0 := Varint.read_reads.spells_of_read (by decide)
  have seven : Varint.Spells [0x87, 0] 7 := Varint.read_reads.spells_of_read (by decide)
  have first : tensorInts.type.Run tensorInts.number none [] :=
    .packed blockKey zero rfl (Bytes.spell_nil.mpr rfl)
  have second : tensorInts.type.Run tensorInts.number block [3, 5] :=
    .packed blockKey seven rfl (tensorInts.type.item_reads.items_eq_some_iff.mp (by decide))
  have third : tensorInts.type.Run tensorInts.number single [-1] :=
    .single numberKey (tensorInts.type.item_reads.spells_of_read (by decide))
  have split : Bytes.Spell (tensorInts.type.Run tensorInts.number)
      (none ++ (block ++ (single ++ []))) runs :=
    Bytes.spell_cons.mpr ⟨none, _, first, Bytes.spell_cons.mpr ⟨block, _, second,
      Bytes.spell_cons.mpr ⟨single, _, third, Bytes.spell_nil.mpr rfl, rfl⟩, rfl⟩, rfl⟩
  have read : Payload.read tensorInts.type.wire (wide ++ [7]) = some (.varint 4294967301, [7]) := by
    decide
  obtain ⟨taken, stands⟩ := update_runs tensorInts present
  exact ⟨split, taken _ _ split, read, stands _ _ _ read⟩

end NumberField
end NodeLowering
