import NodeLowering.Proofs.Wire.Spelling

/-! Records that follow each other. A written record is read back whatever follows it, and a reader
takes no notice of what follows its record, so that the records of a byte string are those of its
parts. -/
namespace NodeLowering.Wire

/-- Numbers that leave room for the wire type in a key of 32 bits. -/
def Key.Numbered (number : Nat) : Prop := 0 < number ∧ number < 536870912

instance (number : Nat) : Decidable (Key.Numbered number) :=
  inferInstanceAs (Decidable (0 < number ∧ number < 536870912))

theorem Key.read_write (key : Key) (numbered : Numbered key.number) (rest : Bytes) :
    read (key.write ++ rest) = some (key, rest) := by
  obtain ⟨positive, small⟩ := numbered
  have code := key.wire.code_lt
  have value : (UInt64.ofNat (8 * key.number + key.wire.code)).toNat =
      8 * key.number + key.wire.code := toNat_ofNat (by omega)
  have spelled := Varint.write_spells (UInt64.ofNat (8 * key.number + key.wire.code))
  have groups := spelled.groups
  rw [value] at groups
  exact read_reads.append ⟨groups, spelled.short, by omega, positive⟩ rest

theorem cut_ofNat (count value : Nat) (rest : Bytes) :
    Bytes.cut count (Bytes.ofNat count value ++ rest) = some (Bytes.ofNat count value, rest) := by
  have digits := Bytes.cut_append (Bytes.ofNat count value) rest
  rwa [Bytes.length_ofNat] at digits

/-- A block is preceded by its length, which is a number of 64 bits. -/
def Payload.Fits : Payload → Prop
  | block content => content.length < 18446744073709551616
  | _ => True

theorem Payload.read_write {payload : Payload} (fits : payload.Fits) (rest : Bytes) :
    read payload.wire (payload.write ++ rest) = some (payload, rest) := by
  cases payload with
  | varint value => simp [read, wire, write, Varint.read_write]
  | fixed64 value =>
    have same : value.toNat % Bytes.capacity 8 = value.toNat := Nat.mod_eq_of_lt value.toNat_lt
    simp [read, wire, write, cut_ofNat, Bytes.toNat_ofNat, same]
  | block content =>
    have length : (UInt64.ofNat content.length).toNat = content.length := by
      rw [UInt64.toNat_ofNat', Nat.mod_eq_of_lt fits]
    simp [read, wire, write, List.append_assoc, Varint.read_write, length, Bytes.cut_append,
      -UInt64.toNat_ofNat']
  | fixed32 value =>
    have same : value.toNat % Bytes.capacity 4 = value.toNat := Nat.mod_eq_of_lt value.toNat_lt
    simp [read, wire, write, cut_ofNat, Bytes.toNat_ofNat, same]

namespace Record

/-- Reads what follows the key of a record. -/
def readAfter (blocks : List Nat) (depth : Nat) (key : Key) (bs : Bytes) :
    Option (Record × Bytes) := do
  if key.number ∈ blocks then
    let (payload, rest) ← Payload.read .block bs
    return (.data key.number payload, rest)
  else if key.wire = .groupStart then
    return (.group key.number, ← skip depth key bs)
  else
    let (payload, rest) ← Payload.read key.wire bs
    return (.data key.number payload, rest)

theorem read_eq (blocks : List Nat) (depth : Nat) (bs : Bytes) : read blocks depth bs = (do
    let (key, rest) ← Key.read bs
    readAfter blocks depth key rest) :=
  rfl

theorem read_append {front : Bytes} {key : Key} (keyed : Key.Spells front key)
    (blocks : List Nat) (depth : Nat) (rest : Bytes) :
    read blocks depth (front ++ rest) = readAfter blocks depth key rest := by
  rw [read_eq, Key.read_reads.append keyed]
  rfl

theorem readAfter_block {blocks : List Nat} {key : Key} (member : key.number ∈ blocks)
    (depth : Nat) (bs : Bytes) : readAfter blocks depth key bs =
      (Payload.read .block bs).map fun pair => (.data key.number pair.1, pair.2) := by
  rw [readAfter, if_pos member]
  cases Payload.read .block bs <;> rfl

theorem readAfter_group {blocks : List Nat} {key : Key} (plain : key.number ∉ blocks)
    (group : key.wire = .groupStart) (depth : Nat) (bs : Bytes) :
    readAfter blocks depth key bs =
      (skip depth key bs).map fun rest => (.group key.number, rest) := by
  rw [readAfter, if_neg plain, if_pos group]
  cases skip depth key bs <;> rfl

theorem readAfter_single {blocks : List Nat} {key : Key} (plain : key.number ∉ blocks)
    (single : key.wire ≠ .groupStart) (depth : Nat) (bs : Bytes) :
    readAfter blocks depth key bs =
      (Payload.read key.wire bs).map fun pair => (.data key.number pair.1, pair.2) := by
  rw [readAfter, if_neg plain, if_neg single]
  cases Payload.read key.wire bs <;> rfl

theorem readAfter_congr {blocks others : List Nat} {key : Key}
    (same : key.number ∈ blocks ↔ key.number ∈ others) (depth : Nat) (bs : Bytes) :
    readAfter blocks depth key bs = readAfter others depth key bs := by
  simp only [readAfter, same]

theorem number_of_readAfter {blocks : List Nat} {depth : Nat} {key : Key} {bs rest : Bytes}
    {record : Record} (h : readAfter blocks depth key bs = some (record, rest)) :
    record.number = key.number := by
  by_cases member : key.number ∈ blocks
  · rw [readAfter_block member] at h
    obtain ⟨_, _, same⟩ := Option.map_eq_some_iff.mp h
    cases same
    rfl
  · by_cases group : key.wire = .groupStart
    · rw [readAfter_group member group] at h
      obtain ⟨_, _, same⟩ := Option.map_eq_some_iff.mp h
      cases same
      rfl
    · rw [readAfter_single member group] at h
      obtain ⟨_, _, same⟩ := Option.map_eq_some_iff.mp h
      cases same
      rfl

/-- What follows a key is read without a look at what comes after the record. -/
theorem readAfter_own {blocks : List Nat} {depth : Nat} {front : Bytes} {key : Key}
    (keyed : Key.Spells front key) {bs rest : Bytes} {record : Record}
    (h : readAfter blocks depth key bs = some (record, rest)) :
    ∃ back, bs = back ++ rest ∧
      ∀ more, readAfter blocks depth key (back ++ more) = some (record, more) := by
  by_cases member : key.number ∈ blocks
  · rw [readAfter_block member] at h
    obtain ⟨⟨payload, _⟩, block, same⟩ := Option.map_eq_some_iff.mp h
    cases same
    obtain ⟨back, spelled, rfl⟩ := (Payload.read_reads .block).eq_some_iff.mp block
    refine ⟨back, rfl, fun more => ?_⟩
    rw [readAfter_block member, (Payload.read_reads .block).append spelled, Option.map_some]
  · by_cases group : key.wire = .groupStart
    · rw [readAfter_group member group] at h
      obtain ⟨_, passed, same⟩ := Option.map_eq_some_iff.mp h
      cases same
      obtain ⟨back, record, spelled, own, rfl⟩ := (skipped depth keyed).mp passed
      refine ⟨back, rfl, fun more => ?_⟩
      rw [readAfter_group member group,
        (skipped depth keyed).mpr ⟨back, record, spelled, own, rfl⟩, Option.map_some]
    · rw [readAfter_single member group] at h
      obtain ⟨⟨payload, _⟩, single, same⟩ := Option.map_eq_some_iff.mp h
      cases same
      obtain ⟨back, spelled, rfl⟩ := (Payload.read_reads key.wire).eq_some_iff.mp single
      refine ⟨back, rfl, fun more => ?_⟩
      rw [readAfter_single member group, (Payload.read_reads key.wire).append spelled,
        Option.map_some]

theorem read_stands (blocks : List Nat) (depth : Nat) :
    Bytes.Reads (read blocks depth) (Bytes.Stands (read blocks depth)) := by
  apply Bytes.reads_stands
  intro bs record rest h
  obtain ⟨⟨key, left⟩, read, kept⟩ := Option.bind_eq_some_iff.mp h
  obtain ⟨front, keyed, rfl⟩ := Key.read_reads.eq_some_iff.mp read
  obtain ⟨back, rfl, own⟩ := readAfter_own keyed kept
  refine ⟨front ++ back, ⟨?_, fun more => ?_⟩, (List.append_assoc _ _ _).symm⟩
  · exact fun none => Key.read_reads.nonempty keyed (List.append_eq_nil_iff.mp none).1
  · rw [List.append_assoc, read_append keyed, own]

theorem read_delimited (blocks : List Nat) (depth : Nat) :
    Bytes.Delimited (read blocks depth) :=
  (read_stands blocks depth).delimited

end Record

/-- A record that its bytes give back: not a group, and with a number and a payload that its bytes
can express. Fields in `blocks` are read as blocks. -/
def Record.Writable (blocks : List Nat) : Record → Prop
  | data number payload =>
      Key.Numbered number ∧ payload.Fits ∧ (number ∈ blocks → payload.wire = .block)
  | group _ => False

theorem Record.Writable.of_blocks {record : Record} {blocks others : List Nat}
    (writable : record.Writable blocks) (h : record.number ∈ others → record.number ∈ blocks) :
    record.Writable others := by
  cases record with
  | group number => exact writable
  | data number payload =>
    obtain ⟨numbered, fits, block⟩ := writable
    exact ⟨numbered, fits, fun member => block (h member)⟩

theorem Record.read_write {blocks : List Nat} {record : Record} (writable : record.Writable blocks)
    (depth : Nat) (rest : Bytes) :
    Record.read blocks depth (record.write ++ rest) = some (record, rest) := by
  cases record with
  | group number => contradiction
  | data number payload =>
    obtain ⟨numbered, fits, block⟩ := writable
    have keyed := Key.read_write ⟨number, payload.wire⟩ numbered (payload.write ++ rest)
    have content := Payload.read_write fits rest
    have single : payload.wire ≠ .groupStart := by cases payload <;> simp [Payload.wire]
    simp only [Record.read, Record.write, List.append_assoc, keyed, Option.bind_eq_bind,
      Option.bind_some, if_neg single]
    split
    · next inBlocks =>
      rw [← block inBlocks, content]
      rfl
    · rw [content]
      rfl

/-- Written records are read back, all of them and in order. -/
theorem Record.items_write {blocks : List Nat} {records : List Record}
    (writable : ∀ record ∈ records, record.Writable blocks) (depth : Nat) :
    Bytes.items (Record.read blocks depth) (records.flatMap Record.write) = some records := by
  induction records with
  | nil => rfl
  | cons record records ih =>
    have first := Record.read_write (writable record List.mem_cons_self) depth
      (records.flatMap Record.write)
    rw [List.flatMap_cons, Bytes.items_of_item (Record.read_delimited blocks depth) first,
      ih fun record member => writable record (List.mem_cons_of_mem _ member)]
    rfl

end NodeLowering.Wire
