import NodeLowering.Proofs.Bytes.Spelling
import NodeLowering.Wire.Record

/-! The byte strings that stand for numbers, keys, payloads and whole records, as relations that
know nothing of reading. Each reader takes exactly these off the front of a byte string. A record
may be spelled in several ways, since numbers may take more bytes than they need and since what lies
in a group is not kept. -/
namespace NodeLowering.Wire

namespace Varint

/-- Groups of seven bits, the lowest first. Every byte but the last has its high bit set. -/
inductive Groups : Bytes → Nat → Prop
  | last {b : UInt8} (low : b < 128) : Groups [b] b.toNat
  | more {b : UInt8} {bs : Bytes} {n : Nat} (high : ¬ b < 128) (later : Groups bs n) :
      Groups (b :: bs) (b.toNat - 128 + 128 * n)

/-- A number of 64 bits in at most ten bytes. -/
structure Spells (bs : Bytes) (value : UInt64) : Prop where
  groups : Groups bs value.toNat
  short : bs.length ≤ 10

theorem Groups.nonempty {bs : Bytes} {n : Nat} (groups : Groups bs n) : bs ≠ [] := by
  cases groups <;> simp

theorem capacity_pos (more : Nat) : 0 < capacity more := by
  induction more with
  | zero => decide
  | succ more ih =>
    rw [capacity]
    omega

/-- The last byte that the limit allows has room for one bit, which bounds the number. -/
theorem groups_of_readUpTo {more n : Nat} {bs rest : Bytes}
    (h : readUpTo (more + 1) bs = some (n, rest)) :
    ∃ front, Groups front n ∧ front.length ≤ more + 1 ∧ n < capacity more ∧ bs = front ++ rest := by
  induction more generalizing bs n with
  | zero =>
    cases bs with
    | nil => contradiction
    | cons b bs =>
      rw [readUpTo] at h
      split at h
      · next low =>
        split at h
        · contradiction
        · next bit =>
          cases h
          refine ⟨[b], .last low, Nat.le_refl _, ?_, rfl⟩
          simp only [true_and, UInt8.lt_iff_toNat_lt, UInt8.reduceToNat] at bit
          simp only [capacity]
          omega
      · contradiction
  | succ more ih =>
    cases bs with
    | nil => contradiction
    | cons b bs =>
      rw [readUpTo] at h
      split at h
      · next low =>
        rw [if_neg (by omega)] at h
        cases h
        have byte := UInt8.lt_iff_toNat_lt.mp low
        refine ⟨[b], .last low, by simp, Nat.lt_of_lt_of_le byte ?_, rfl⟩
        exact Nat.le_mul_of_pos_right 128 (capacity_pos more)
      · next high =>
        obtain ⟨⟨m, left⟩, found, same⟩ := Option.map_eq_some_iff.mp h
        cases same
        obtain ⟨front, groups, short, small, rfl⟩ := ih found
        have byte := b.toNat_lt
        refine ⟨b :: front, .more high groups, Nat.succ_le_succ short, ?_, rfl⟩
        rw [capacity]
        omega

theorem Groups.readUpTo {more n : Nat} {front : Bytes} (groups : Groups front n)
    (short : front.length ≤ more + 1) (small : n < capacity more) (rest : Bytes) :
    readUpTo (more + 1) (front ++ rest) = some (n, rest) := by
  induction groups generalizing more with
  | @last b low =>
    have bit : ¬ (more = 0 ∧ 1 < b) := by
      rintro ⟨rfl, large⟩
      have byte := UInt8.lt_iff_toNat_lt.mp large
      simp only [capacity, UInt8.reduceToNat] at small byte
      omega
    rw [List.singleton_append, Varint.readUpTo, if_pos low, if_neg bit]
  | more high later ih =>
    have positive := List.length_pos_iff.mpr later.nonempty
    rw [List.length_cons] at short
    obtain ⟨more, rfl⟩ : ∃ k, more = k + 1 := ⟨more - 1, by omega⟩
    rw [capacity] at small
    rw [List.cons_append, Varint.readUpTo, if_neg high, ih (by omega) (by omega)]
    rfl

theorem read_reads : Bytes.Reads read Spells where
  nonempty spells := spells.groups.nonempty
  eq_some_iff {bs value rest} := by
    constructor
    · intro h
      obtain ⟨⟨n, left⟩, found, same⟩ := Option.map_eq_some_iff.mp h
      cases same
      obtain ⟨front, groups, short, small, rfl⟩ := groups_of_readUpTo found
      have exact : (UInt64.ofNat n).toNat = n := UInt64.toNat_ofNat_of_lt' small
      exact ⟨front, ⟨exact.symm ▸ groups, short⟩, rfl⟩
    · rintro ⟨front, ⟨groups, short⟩, rfl⟩
      have small : value.toNat < capacity 9 := value.toNat_lt
      rw [read, groups.readUpTo short small]
      simp

theorem write_spells (value : UInt64) : Spells (write value) value := by
  obtain ⟨front, spelled, same⟩ := read_reads.eq_some_iff.mp (read_write value [])
  rwa [List.append_cancel_right same]

end Varint

/-- A key of 32 bits: the number of the field, and in the three lowest bits the wire type. -/
structure Key.Spells (bs : Bytes) (key : Key) : Prop where
  groups : Varint.Groups bs (8 * key.number + key.wire.code)
  short : bs.length ≤ 10
  small : 8 * key.number + key.wire.code < 4294967296
  positive : 1 ≤ key.number

theorem WireType.ofCode?_code (wire : WireType) : ofCode? wire.code = some wire := by
  cases wire <;> rfl

theorem WireType.code_lt (wire : WireType) : wire.code < 8 := by
  cases wire <;> decide

theorem WireType.code_of_ofCode? {code : Nat} {wire : WireType} (h : ofCode? code = some wire) :
    wire.code = code := by
  unfold ofCode? at h
  split at h <;> cases h <;> rfl

theorem Key.toNat_ofNat {n : Nat} (small : n < 4294967296) : (UInt64.ofNat n).toNat = n :=
  UInt64.toNat_ofNat_of_lt' (Nat.lt_trans small (by decide))

theorem Key.read_reads : Bytes.Reads Key.read Key.Spells where
  nonempty spells := spells.groups.nonempty
  eq_some_iff {bs key rest} := by
    constructor
    · intro h
      simp only [read, Option.bind_eq_bind, Option.bind_eq_some_iff] at h
      obtain ⟨⟨value, left⟩, varint, wire, coded, kept⟩ := h
      obtain ⟨front, spelled, rfl⟩ := Varint.read_reads.eq_some_iff.mp varint
      simp only at coded kept
      split at kept
      · next range =>
        cases kept
        have code := WireType.code_of_ofCode? coded
        have whole : 8 * (value.toNat / 8) + wire.code = value.toNat := by omega
        refine ⟨front, ⟨?_, spelled.short, ?_, Nat.pos_of_ne_zero range.2⟩, rfl⟩
        · simpa only [whole] using spelled.groups
        · simpa only [whole] using range.1
      · contradiction
    · rintro ⟨front, ⟨groups, short, small, positive⟩, rfl⟩
      have code := key.wire.code_lt
      have value : (UInt64.ofNat (8 * key.number + key.wire.code)).toNat =
          8 * key.number + key.wire.code := toNat_ofNat small
      have varint := Varint.read_reads.append ⟨value.symm ▸ groups, short⟩ rest
      have low : (8 * key.number + key.wire.code) % 8 = key.wire.code := by omega
      have high : (8 * key.number + key.wire.code) / 8 = key.number := by omega
      have range : 8 * key.number + key.wire.code < 4294967296 ∧ key.number ≠ 0 := by omega
      simp only [Key.read, varint, value, low, high, WireType.ofCode?_code, Option.bind_eq_bind,
        Option.bind_some, if_pos range]

theorem Payload.wire_ne_groupStart (payload : Payload) : payload.wire ≠ .groupStart := by
  cases payload <;> exact nofun

/-- What stands for a payload depends on its wire type only. -/
inductive Payload.Spells : Bytes → Payload → Prop
  | varint {bs : Bytes} {value : UInt64} (spelled : Varint.Spells bs value) :
      Spells bs (.varint value)
  | fixed64 {bs : Bytes} (length : bs.length = 8) : Spells bs (.fixed64 (UInt64.ofNat bs.toNat))
  | fixed32 {bs : Bytes} (length : bs.length = 4) : Spells bs (.fixed32 (UInt32.ofNat bs.toNat))
  | block {front content : Bytes} {length : UInt64} (spelled : Varint.Spells front length)
      (exact : length.toNat = content.length) : Spells (front ++ content) (.block content)

theorem Payload.read_reads (wire : WireType) : Bytes.Reads (Payload.read wire)
    fun bs payload => payload.wire = wire ∧ Payload.Spells bs payload where
  nonempty {front payload} := by
    rintro ⟨_, spelled⟩
    cases spelled with
    | varint spelled => exact spelled.groups.nonempty
    | fixed64 length | fixed32 length => exact List.ne_nil_of_length_pos (by omega)
    | block spelled =>
      exact fun none => spelled.groups.nonempty (List.append_eq_nil_iff.mp none).1
  eq_some_iff {bs payload rest} := by
    constructor
    · intro h
      cases wire with
      | varint =>
        obtain ⟨⟨value, left⟩, varint, same⟩ := Option.bind_eq_some_iff.mp h
        cases same
        obtain ⟨front, spelled, rfl⟩ := Varint.read_reads.eq_some_iff.mp varint
        exact ⟨front, ⟨rfl, .varint spelled⟩, rfl⟩
      | fixed64 =>
        obtain ⟨⟨digits, left⟩, cut, same⟩ := Option.bind_eq_some_iff.mp h
        cases same
        obtain ⟨rfl, length⟩ := Bytes.append_of_cut cut
        exact ⟨digits, ⟨rfl, .fixed64 length⟩, rfl⟩
      | fixed32 =>
        obtain ⟨⟨digits, left⟩, cut, same⟩ := Option.bind_eq_some_iff.mp h
        cases same
        obtain ⟨rfl, length⟩ := Bytes.append_of_cut cut
        exact ⟨digits, ⟨rfl, .fixed32 length⟩, rfl⟩
      | block =>
        obtain ⟨⟨length, left⟩, varint, h⟩ := Option.bind_eq_some_iff.mp h
        obtain ⟨⟨content, left⟩, cut, same⟩ := Option.bind_eq_some_iff.mp h
        cases same
        obtain ⟨front, spelled, rfl⟩ := Varint.read_reads.eq_some_iff.mp varint
        obtain ⟨rfl, exact⟩ := Bytes.append_of_cut cut
        exact ⟨front ++ content, ⟨rfl, .block spelled exact.symm⟩, (List.append_assoc _ _ _).symm⟩
      | groupStart | groupEnd => contradiction
    · rintro ⟨front, ⟨rfl, spelled⟩, rfl⟩
      cases spelled with
      | varint spelled => simp [read, wire, Varint.read_reads.append spelled]
      | fixed64 length | fixed32 length => simp [read, wire, ← length, Bytes.cut_append]
      | block spelled exact =>
        simp [read, wire, List.append_assoc, Varint.read_reads.append spelled, exact,
          Bytes.cut_append]

/-- A record with its key. It takes up one of `depth` levels, and the records in a group take up the
levels below it. A group ends with a key of its own number. -/
inductive Record.Spells : (depth : Nat) → Bytes → Record → Prop
  | data {depth number : Nat} {payload : Payload} {front back : Bytes}
      (key : Key.Spells front ⟨number, payload.wire⟩) (spelled : payload.Spells back) :
      Spells (depth + 1) (front ++ back) (.data number payload)
  | group {depth number : Nat} {front back : Bytes} {members : List (Bytes × Record)}
      (starts : Key.Spells front ⟨number, .groupStart⟩)
      (inside : ∀ member ∈ members, Spells depth member.1 member.2)
      (ends : Key.Spells back ⟨number, .groupEnd⟩) :
      Spells (depth + 1) (front ++ (members.flatMap (·.1) ++ back)) (.group number)

namespace Record

/-- The key that a record starts with. -/
def key : Record → Key
  | data number payload => ⟨number, payload.wire⟩
  | group number => ⟨number, .groupStart⟩

theorem key_number (record : Record) : record.key.number = record.number := by
  cases record <;> rfl

theorem key_wire (record : Record) : record.key.wire ≠ .groupEnd := by
  cases record with
  | data number payload => cases payload <;> exact nofun
  | group number => exact nofun

theorem Spells.exists_key {depth : Nat} {bs : Bytes} {record : Record}
    (spelled : Record.Spells depth bs record) :
    ∃ front back, Key.Spells front record.key ∧ bs = front ++ back := by
  cases spelled with
  | data key spelled => exact ⟨_, _, key, rfl⟩
  | group starts inside ends => exact ⟨_, _, starts, rfl⟩

theorem Spells.nonempty {depth : Nat} {bs : Bytes} {record : Record}
    (spelled : Record.Spells depth bs record) : bs ≠ [] := by
  obtain ⟨front, back, key, rfl⟩ := spelled.exists_key
  exact fun none => key.groups.nonempty (List.append_eq_nil_iff.mp none).1

/-- Skipping what follows a key goes to the end of a record with that key. -/
def Skipped (depth : Nat) : Prop := ∀ {front key bs rest}, Key.Spells front key →
  (skip depth key bs = some rest ↔
    ∃ back record, Record.Spells depth (front ++ back) record ∧ record.key = key ∧
      bs = back ++ rest)

/-- What is skipped as the rest of a group are records and the key that ends it. -/
theorem Skipped.members {depth number limit : Nat} (skipped : Skipped depth) {bs rest : Bytes}
    (h : skipGroup (skip depth) number limit bs = some rest) :
    ∃ (members : List (Bytes × Record)) (back : Bytes),
      (∀ member ∈ members, Record.Spells depth member.1 member.2) ∧
        Key.Spells back ⟨number, .groupEnd⟩ ∧ bs = members.flatMap (·.1) ++ (back ++ rest) := by
  induction limit generalizing bs with
  | zero => contradiction
  | succ limit ih =>
    obtain ⟨⟨key, left⟩, read, kept⟩ := Option.bind_eq_some_iff.mp h
    obtain ⟨front, keyed, rfl⟩ := Key.read_reads.eq_some_iff.mp read
    simp only at kept
    split at kept
    · next ends =>
      split at kept
      · next same =>
        cases kept
        have key_eq : key = ⟨number, .groupEnd⟩ := by rw [← ends, ← same]
        exact ⟨[], front, nofun, key_eq ▸ keyed, rfl⟩
      · contradiction
    · next inside =>
      obtain ⟨after, passed, later⟩ := Option.bind_eq_some_iff.mp kept
      obtain ⟨tail, record, spelled, -, rfl⟩ := (skipped keyed).mp passed
      obtain ⟨members, back, each, ends, rfl⟩ := ih later
      refine ⟨(front ++ tail, record) :: members, back, ?_, ends, ?_⟩
      · exact List.forall_mem_cons.mpr ⟨spelled, each⟩
      · rw [List.flatMap_cons, List.append_assoc, List.append_assoc]

/-- Every record takes one step, and the key that ends the group another. -/
theorem Skipped.skipGroup {depth number limit : Nat} (skipped : Skipped depth)
    {members : List (Bytes × Record)} {back : Bytes}
    (each : ∀ member ∈ members, Record.Spells depth member.1 member.2)
    (ends : Key.Spells back ⟨number, .groupEnd⟩) (enough : members.length < limit)
    (rest : Bytes) :
    skipGroup (skip depth) number limit (members.flatMap (·.1) ++ (back ++ rest)) = some rest := by
  induction members generalizing limit with
  | nil =>
    obtain ⟨limit, rfl⟩ : ∃ n, limit = n + 1 := ⟨limit - 1, by omega⟩
    simp [Wire.skipGroup, Key.read_reads.append ends rest]
  | cons member members ih =>
    obtain ⟨limit, rfl⟩ : ∃ n, limit = n + 1 := ⟨limit - 1, by omega⟩
    obtain ⟨spelled, each⟩ := List.forall_mem_cons.mp each
    obtain ⟨front, tail, keyed, whole⟩ := spelled.exists_key
    have later := ih each (Nat.lt_of_succ_lt_succ enough)
    have passed := (skipped keyed).mpr ⟨tail, member.2, whole ▸ spelled, rfl,
      (rfl : tail ++ (members.flatMap (·.1) ++ (back ++ rest)) = _)⟩
    rw [List.flatMap_cons, whole, List.append_assoc, List.append_assoc, Wire.skipGroup,
      Key.read_reads.append keyed]
    simp only [Option.bind_eq_bind, Option.bind_some, if_neg member.2.key_wire]
    rw [passed]
    exact later

theorem length_le_flatMap {depth : Nat} {members : List (Bytes × Record)}
    (each : ∀ member ∈ members, Record.Spells depth member.1 member.2) :
    members.length ≤ (members.flatMap (·.1)).length := by
  induction members with
  | nil => exact Nat.le_refl 0
  | cons member members ih =>
    obtain ⟨spelled, each⟩ := List.forall_mem_cons.mp each
    have first := List.length_pos_iff.mpr spelled.nonempty
    have later := ih each
    rw [List.flatMap_cons, List.length_append, List.length_cons]
    omega

/-- The records in a group are skipped one level below it, so the induction is on the levels. -/
theorem skipped (depth : Nat) : Skipped depth := by
  induction depth with
  | zero =>
    intro front key bs rest keyed
    constructor
    · intro h
      contradiction
    · rintro ⟨back, record, spelled, -⟩
      cases spelled
  | succ depth ih =>
    intro front key bs rest keyed
    rw [skip]
    constructor
    · intro h
      split at h
      · next starts =>
        obtain ⟨members, back, each, ends, rfl⟩ := ih.members h
        obtain ⟨number, wire⟩ := key
        cases starts
        exact ⟨members.flatMap (·.1) ++ back, .group number, .group keyed each ends, rfl,
          (List.append_assoc _ _ _).symm⟩
      · next single =>
        obtain ⟨⟨payload, left⟩, read, same⟩ := Option.map_eq_some_iff.mp h
        cases same
        obtain ⟨back, ⟨wire, spelled⟩, rfl⟩ := (Payload.read_reads _).eq_some_iff.mp read
        obtain ⟨number, _⟩ := key
        cases wire
        exact ⟨back, .data number payload, .data keyed spelled, rfl, rfl⟩
    · rintro ⟨back, record, spelled, rfl, rfl⟩
      -- The bytes start with one key only, so that of the record is the one at hand.
      generalize whole : front ++ back = bytes at spelled
      cases spelled with
      | @data _ number payload _ _ keys spelled =>
        obtain ⟨-, -, rfl⟩ := Key.read_reads.unique keyed keys whole
        have single : (data number payload).key.wire ≠ .groupStart := payload.wire_ne_groupStart
        rw [if_neg single]
        exact congrArg (Option.map (·.2))
          ((Payload.read_reads payload.wire).append ⟨rfl, spelled⟩ rest)
      | group starts inside ends =>
        obtain ⟨-, -, rfl⟩ := Key.read_reads.unique keyed starts whole
        have room := length_le_flatMap inside
        have last := List.length_pos_iff.mpr ends.groups.nonempty
        simp only [key, if_pos, List.append_assoc]
        apply ih.skipGroup inside ends
        simp only [List.length_append]
        omega

/-- Where any wire type is allowed for every field, whole records are read. -/
theorem read_reads {depth : Nat} (positive : 0 < depth) :
    Bytes.Reads (Record.read [] depth) (Record.Spells depth) where
  nonempty spelled := spelled.nonempty
  eq_some_iff {bs record rest} := by
    constructor
    · intro h
      obtain ⟨⟨key, left⟩, read, kept⟩ := Option.bind_eq_some_iff.mp h
      obtain ⟨front, keyed, rfl⟩ := Key.read_reads.eq_some_iff.mp read
      simp only [List.not_mem_nil, if_false] at kept
      split at kept
      · next starts =>
        obtain ⟨after, passed, same⟩ := Option.bind_eq_some_iff.mp kept
        cases same
        obtain ⟨back, record, spelled, own, rfl⟩ := (skipped depth keyed).mp passed
        have group : record = .group key.number := by
          rw [← own] at starts ⊢
          cases record with
          | data number payload => exact absurd starts payload.wire_ne_groupStart
          | group number => rfl
        exact ⟨front ++ back, group ▸ spelled, (List.append_assoc _ _ _).symm⟩
      · next single =>
        obtain ⟨⟨payload, after⟩, read, same⟩ := Option.bind_eq_some_iff.mp kept
        cases same
        obtain ⟨back, ⟨wire, spelled⟩, rfl⟩ := (Payload.read_reads _).eq_some_iff.mp read
        obtain ⟨depth, rfl⟩ : ∃ n, depth = n + 1 := ⟨depth - 1, by omega⟩
        obtain ⟨number, _⟩ := key
        cases wire
        exact ⟨front ++ back, .data keyed spelled, (List.append_assoc _ _ _).symm⟩
    · rintro ⟨front, spelled, rfl⟩
      cases spelled with
      | @data _ number payload _ back keyed spelled =>
        simp [Record.read, Key.read_reads.append keyed, payload.wire_ne_groupStart,
          (Payload.read_reads payload.wire).append ⟨rfl, spelled⟩]
      | @group _ number _ back members starts inside ends =>
        have passed := (skipped _ starts).mpr
          ⟨_, .group number, .group starts inside ends, rfl, (rfl : _ ++ rest = _)⟩
        simp only [Record.read, List.append_assoc, Key.read_reads.append starts] at passed ⊢
        simp [passed]

theorem spells_of_read {depth : Nat} (positive : 0 < depth) {bs : Bytes} {record : Record}
    (h : Record.read [] depth bs = some (record, [])) : Record.Spells depth bs record :=
  (read_reads positive).spells_of_read h

/-- Fields that hold blocks are read like all others from keys that say so. -/
theorem read_blocks {blocks : List Nat} {depth : Nat} {bs rest : Bytes} {key : Key}
    (read : Key.read bs = some (key, rest)) (block : key.number ∈ blocks → key.wire = .block) :
    Record.read blocks depth bs = Record.read [] depth bs := by
  simp only [Record.read, read, Option.bind_eq_bind, Option.bind_some, List.not_mem_nil, if_false]
  split
  · next member => simp [block member]
  · rfl

/-- A whole record is read whatever follows it, if its key gives the wire type of its field. -/
theorem Spells.read_append {blocks : List Nat} {depth : Nat} {bs : Bytes} {record : Record}
    (spelled : Record.Spells depth bs record)
    (block : record.number ∈ blocks → record.key.wire = .block) (rest : Bytes) :
    Record.read blocks depth (bs ++ rest) = some (record, rest) := by
  have positive : 0 < depth := by cases spelled <;> exact Nat.succ_pos _
  have plain := (read_reads positive).append spelled rest
  obtain ⟨front, back, keyed, rfl⟩ := spelled.exists_key
  have read := Key.read_reads.append keyed (back ++ rest)
  rw [← List.append_assoc] at read
  rw [read_blocks read (by rwa [key_number]), plain]

end Record

end NodeLowering.Wire
