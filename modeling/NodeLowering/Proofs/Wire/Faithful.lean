import NodeLowering.Proofs.Wire.Reading
import NodeLowering.Wire.Format

/-! Formats that lose nothing: taking up the records of a value puts what they set over the value
present. The law is kept by every way of putting formats together, and it speaks of any value
present, since the records of one field are taken up between those of others. -/
namespace NodeLowering.Wire

theorem Payload.fits_of_not_block {payload : Payload} (h : payload.wire ≠ .block) :
    payload.Fits := by
  cases payload with
  | block bytes => exact absurd rfl h
  | _ => trivial

/-- Values of the scalar are payloads of its wire type that tell them apart. -/
structure Scalar.Faithful {α : Type} (s : Scalar α) : Prop where
  wire : ∀ x, (s.toPayload x).wire = s.wire
  ofPayload : ∀ x, s.ofPayload (s.toPayload x) = some x

namespace Scalar

theorem int64_faithful : int64.Faithful := ⟨fun _ => rfl, fun x => by simp [int64]⟩

theorem int32_faithful : int32.Faithful where
  wire _ := rfl
  ofPayload x := by
    have low : x.toInt64.toUInt64.toUInt32.toInt32 = x := by
      apply Int32.toBitVec_inj.mp
      change ((x.toBitVec.signExtend 64).setWidth 32) = x.toBitVec
      ext i small
      have wide : i < 64 := by omega
      simp only [BitVec.getElem_setWidth, BitVec.getLsbD_signExtend]
      simp [wide, small]
    simp [int32, low]

theorem bool_faithful : bool.Faithful := ⟨fun _ => rfl, fun x => by cases x <;> rfl⟩

theorem float_faithful : float.Faithful := ⟨fun _ => rfl, fun _ => rfl⟩

theorem double_faithful : double.Faithful := ⟨fun _ => rfl, fun _ => rfl⟩

theorem bytes_faithful : bytes.Faithful := ⟨fun _ => rfl, fun _ => rfl⟩

theorem text_faithful : text.Faithful := ⟨fun _ => rfl, Utf8.decode_bytes⟩

end Scalar

namespace Format
variable {α β σ ν : Type}

/-- The encoding is no longer than a byte string in memory can be. -/
def Fits (format : Format σ) (value : σ) : Prop :=
  (format.encode value).length < 9223372036854775808

/-- Takes up records of the fields one after the other. -/
def acceptAll (format : Format σ) (depth : Nat) (records : List Record) (value : σ) : Option σ :=
  records.foldlM (fun value record => format.accept depth record value) value

/-- What is written can be read, and is taken up as `overlay` says where messages may have at least
`levels` further levels. -/
structure Faithful (format : Format σ) (levels : Nat) : Prop where
  numbered : ∀ number ∈ format.numbers, Key.Numbered number
  blocks : ∀ number ∈ format.blocks, number ∈ format.numbers
  written : ∀ {value}, format.Fits value → ∀ record ∈ format.records value,
    record.number ∈ format.numbers ∧ record.Writable format.blocks
  taken : ∀ {value}, format.Fits value → ∀ {depth}, levels ≤ depth → ∀ present,
    format.acceptAll depth (format.records value) present = some (format.overlay present value)

/-- A faithful format that writes one record for every value. -/
structure Whole (format : Format σ) (levels : Nat) : Prop extends Faithful format levels where
  single : ∀ value, ∃ record, format.records value = [record]

theorem acceptAll_append (format : Format σ) (depth : Nat) (front back : List Record) (value : σ) :
    format.acceptAll depth (front ++ back) value =
      format.acceptAll depth front value >>= format.acceptAll depth back :=
  List.foldlM_append

theorem Whole.accept {format : Format σ} {levels depth : Nat} (whole : Whole format levels)
    {value : σ} (fits : format.Fits value) (deep : levels ≤ depth) {record : Record}
    (written : format.records value = [record]) (present : σ) :
    format.accept depth record present = some (format.overlay present value) := by
  have taken := whole.taken fits deep present
  rw [written] at taken
  simpa [acceptAll] using taken

theorem merge_write {format : Format σ} {records : List Record}
    (written : ∀ record ∈ records,
      record.number ∈ format.numbers ∧ record.Writable format.blocks)
    (depth : Nat) (value : σ) :
    format.merge depth value (records.flatMap Record.write) =
      format.acceptAll depth records value := by
  have read := Record.items_write (fun record member => (written record member).2) depth
  rw [merge, read, Option.bind_eq_bind, Option.bind_some]
  clear read
  induction records generalizing value with
  | nil => rfl
  | cons record records ih =>
    have known := (written record List.mem_cons_self).1
    simp only [acceptAll, List.foldlM_cons, absorb, if_pos known]
    congr 1
    funext value
    exact ih (fun record member => written record (List.mem_cons_of_mem _ member)) value

/-- Merging an encoding into a value puts the encoded value over it. -/
theorem Faithful.merge_encode {format : Format σ} {levels depth : Nat}
    (faithful : Faithful format levels) {value : σ} (fits : format.Fits value)
    (deep : levels ≤ depth) (present : σ) :
    format.merge depth present (format.encode value) = some (format.overlay present value) := by
  rw [encode, merge_write (faithful.written fits), faithful.taken fits deep]

/-! One value -/

/-- A block is no longer than the record around it. -/
theorem length_block_lt {format : Format σ} {value : σ} {number : Nat} {content : Bytes}
    (written : format.records value = [.data number (.block content)])
    (fits : format.Fits value) : content.length < 9223372036854775808 := by
  simp only [Fits, encode, written, List.flatMap_singleton, Record.write, Payload.write,
    List.length_append] at fits
  omega

theorem block_fits {format : Format σ} {value : σ} {number : Nat} {content : Bytes}
    (written : format.records value = [.data number (.block content)])
    (fits : format.Fits value) : (Payload.block content).Fits := by
  have short := length_block_lt written fits
  simp only [Payload.Fits]
  omega

theorem scalar_whole {number levels : Nat} {s : Scalar α} (faithful : s.Faithful)
    (numbered : Key.Numbered number := by decide) : Whole (scalar number s) levels where
  numbered _ member := by
    obtain rfl := List.mem_singleton.mp member
    exact numbered
  blocks _ member := absurd member List.not_mem_nil
  written {value} fits record member := by
    obtain rfl := List.mem_singleton.mp member
    refine ⟨List.mem_singleton_self number, numbered, ?_, nofun⟩
    cases payload : s.toPayload value with
    | block content => exact block_fits (congrArg (fun p => [Record.data number p]) payload) fits
    | _ => trivial
  taken _ _ _ _ := by simp [acceptAll, scalar, Record.payload?, faithful.ofPayload]
  single _ := ⟨_, rfl⟩

theorem message_whole {number levels : Nat} {format : Format α}
    (faithful : Faithful format levels) (numbered : Key.Numbered number := by decide) :
    Whole (message number format) (levels + 1) where
  numbered _ member := by
    obtain rfl := List.mem_singleton.mp member
    exact numbered
  blocks _ member := absurd member List.not_mem_nil
  written {value} fits record member := by
    obtain rfl := List.mem_singleton.mp member
    exact ⟨List.mem_singleton_self number, numbered, block_fits rfl fits, nofun⟩
  taken {value} fits depth deep present := by
    obtain ⟨depth, rfl⟩ : ∃ n, depth = n + 1 := ⟨depth - 1, by omega⟩
    have merged := faithful.merge_encode (length_block_lt rfl fits)
      (by omega : levels ≤ depth) present
    simpa [acceptAll, message, Record.payload?] using merged
  single _ := ⟨_, rfl⟩

theorem Faithful.omitting {format : Format α} {levels : Nat} {unset : α → Bool}
    (faithful : Faithful format levels) : Faithful (format.omitting unset) levels where
  numbered := faithful.numbered
  blocks := faithful.blocks
  written {value} fits record member := by
    simp only [Fits, encode, Format.omitting] at fits member ⊢
    split at member
    · contradiction
    · next kept =>
      rw [if_neg kept] at fits
      exact faithful.written fits record member
  taken {value} fits depth deep present := by
    simp only [Fits, encode, Format.omitting] at fits ⊢
    split
    · rfl
    · next kept =>
      rw [if_neg kept] at fits
      exact faithful.taken fits deep present

theorem Whole.optional {format : Format α} {levels : Nat} (whole : Whole format levels) :
    Faithful (format.optional) levels where
  numbered := whole.numbered
  blocks := whole.blocks
  written {value} fits record member := by
    cases value with
    | none => contradiction
    | some value => exact whole.written fits record member
  taken {value} fits depth deep present := by
    cases value with
    | none => rfl
    | some value =>
      obtain ⟨record, written⟩ := whole.single value
      have accepted := whole.accept fits deep written (present.getD format.empty)
      simp [acceptAll, Format.optional, written, accepted]

/-! Lists -/

theorem fits_cons {format : Format α} {value : α} {values : List α}
    (fits : (format.repeated).Fits (value :: values)) :
    format.Fits value ∧ (format.repeated).Fits values := by
  simp only [Fits, encode, repeated, List.flatMap_cons, List.flatMap_append,
    List.length_append] at fits ⊢
  omega

theorem Whole.repeated {format : Format α} {levels : Nat} (whole : Whole format levels) :
    Faithful format.repeated levels where
  numbered := whole.numbered
  blocks := whole.blocks
  written {values} fits record member := by
    induction values with
    | nil => contradiction
    | cons value values ih =>
      obtain ⟨first, later⟩ := fits_cons fits
      rcases List.mem_append.mp member with member | member
      · exact whole.written first record member
      · exact ih later member
  taken {values} fits depth deep present := by
    induction values generalizing present with
    | nil => simp [acceptAll, Format.repeated]
    | cons value values ih =>
      obtain ⟨first, later⟩ := fits_cons fits
      obtain ⟨record, written⟩ := whole.single value
      have accepted := whole.accept first deep written format.empty
      have rest := ih later (present ++ [format.overlay format.empty value])
      simp only [acceptAll, Format.repeated, List.flatMap_cons, written, List.cons_append,
        List.nil_append, List.foldlM_cons, accepted, List.map_cons] at rest ⊢
      simpa using rest

theorem item_stands (s : Scalar α) : Bytes.Reads (item s) (Bytes.Stands (item s)) := by
  apply Bytes.reads_stands
  intro bs x rest h
  obtain ⟨⟨payload, _⟩, read, h⟩ := Option.bind_eq_some_iff.mp h
  obtain ⟨_, taken, same⟩ := Option.bind_eq_some_iff.mp h
  cases same
  obtain ⟨front, spelled, rfl⟩ := (Payload.read_reads s.wire).eq_some_iff.mp read
  refine ⟨front, ⟨(Payload.read_reads s.wire).nonempty spelled, fun more => ?_⟩, rfl⟩
  simp [item, (Payload.read_reads s.wire).append spelled, taken]

theorem items_packed {s : Scalar α} (faithful : s.Faithful) (number : s.wire ≠ .block)
    (values : List α) :
    Bytes.items (item s) (values.flatMap fun value => (s.toPayload value).write) = some values := by
  induction values with
  | nil => rfl
  | cons value values ih =>
    have fits : (s.toPayload value).Fits :=
      Payload.fits_of_not_block (by rw [faithful.wire]; exact number)
    have read := Payload.read_write fits
      (values.flatMap fun value => (s.toPayload value).write)
    rw [faithful.wire] at read
    have first : item s ((value :: values).flatMap fun value => (s.toPayload value).write) =
        some (value, values.flatMap fun value => (s.toPayload value).write) := by
      simp [item, read, faithful.ofPayload]
    rw [Bytes.items_of_item (item_stands s).delimited first, ih]
    rfl

theorem packed_faithful {number levels : Nat} {s : Scalar α} (faithful : s.Faithful)
    (numeric : s.wire ≠ .block := by decide) (numbered : Key.Numbered number := by decide) :
    Faithful (packed number s) levels where
  numbered _ member := by
    obtain rfl := List.mem_singleton.mp member
    exact numbered
  blocks _ member := absurd member List.not_mem_nil
  written {values} fits record member := by
    simp only [packed] at member
    split at member
    · contradiction
    · next some =>
      obtain rfl := List.mem_singleton.mp member
      exact ⟨List.mem_singleton_self number, numbered, block_fits (if_neg some) fits, nofun⟩
  taken {values} _ depth _ present := by
    have items := items_packed faithful numeric values
    cases values with
    | nil => simp [acceptAll, packed]
    | cons value values => simp [acceptAll, packed, Record.payload?, items, -List.flatMap_cons]

/-! Several fields -/

theorem accept_both_first {first : Format α} {second : Format β} {record : Record}
    (ours : record.number ∈ first.numbers) (depth : Nat) (value : α × β) :
    (first.both second).accept depth record value =
      (first.accept depth record value.1).map fun x => (x, value.2) :=
  if_pos ours

theorem accept_both_second {first : Format α} {second : Format β} {record : Record}
    (foreign : record.number ∉ first.numbers) (depth : Nat) (value : α × β) :
    (first.both second).accept depth record value =
      (second.accept depth record value.2).map fun y => (value.1, y) :=
  if_neg foreign

theorem acceptAll_both_first {first : Format α} {second : Format β} {depth : Nat}
    {records : List Record} (known : ∀ record ∈ records, record.number ∈ first.numbers)
    (value : α × β) :
    (both first second).acceptAll depth records value =
      (first.acceptAll depth records value.1).map fun x => (x, value.2) := by
  induction records generalizing value with
  | nil => rfl
  | cons record records ih =>
    have number := known record List.mem_cons_self
    have later := fun value => ih (fun r member => known r (List.mem_cons_of_mem _ member)) value
    simp only [acceptAll] at later
    simp only [acceptAll, List.foldlM_cons, accept_both_first number]
    cases first.accept depth record value.1 with
    | none => rfl
    | some x => exact later (x, value.2)

theorem acceptAll_both_second {first : Format α} {second : Format β} {depth : Nat}
    {records : List Record} (foreign : ∀ record ∈ records, record.number ∉ first.numbers)
    (value : α × β) :
    (both first second).acceptAll depth records value =
      (second.acceptAll depth records value.2).map fun y => (value.1, y) := by
  induction records generalizing value with
  | nil => rfl
  | cons record records ih =>
    have number := foreign record List.mem_cons_self
    have later := fun value => ih (fun r member => foreign r (List.mem_cons_of_mem _ member)) value
    simp only [acceptAll] at later
    simp only [acceptAll, List.foldlM_cons, accept_both_second number]
    cases second.accept depth record value.2 with
    | none => rfl
    | some y => exact later (value.1, y)

theorem both_numbers (first : Format α) (second : Format β) :
    (both first second).numbers = first.numbers ++ second.numbers :=
  List.flatten_append

theorem both_fits {first : Format α} {second : Format β} {value : α × β}
    (fits : (both first second).Fits value) : first.Fits value.1 ∧ second.Fits value.2 := by
  simp only [Fits, encode, both, List.flatMap_append, List.length_append] at fits ⊢
  omega

theorem Faithful.both {first : Format α} {second : Format β} {levels : Nat}
    (h : Faithful first levels) (k : Faithful second levels)
    (apart : ∀ number ∈ first.numbers, number ∉ second.numbers := by decide) :
    Faithful (first.both second) levels where
  numbered number member := by
    rw [both_numbers] at member
    rcases List.mem_append.mp member with member | member
    · exact h.numbered number member
    · exact k.numbered number member
  blocks number member := by
    rw [both_numbers]
    rcases List.mem_append.mp member with member | member
    · exact List.mem_append_left _ (h.blocks number member)
    · exact List.mem_append_right _ (k.blocks number member)
  written {value} fits record member := by
    obtain ⟨front, back⟩ := both_fits fits
    rw [both_numbers]
    rcases List.mem_append.mp member with member | member
    · obtain ⟨number, writable⟩ := h.written front record member
      refine ⟨List.mem_append_left _ number, writable.of_blocks fun block => ?_⟩
      rcases List.mem_append.mp block with block | block
      · exact block
      · exact absurd (k.blocks _ block) (apart _ number)
    · obtain ⟨number, writable⟩ := k.written back record member
      refine ⟨List.mem_append_right _ number, writable.of_blocks fun block => ?_⟩
      rcases List.mem_append.mp block with block | block
      · exact absurd number (apart _ (h.blocks _ block))
      · exact block
  taken {value} fits depth deep present := by
    obtain ⟨front, back⟩ := both_fits fits
    have ours : ∀ record ∈ first.records value.1, record.number ∈ first.numbers :=
      fun record member => (h.written front record member).1
    have theirs : ∀ record ∈ second.records value.2, record.number ∉ first.numbers :=
      fun record member number => apart _ number (k.written back record member).1
    change (first.both second).acceptAll depth
      (first.records value.1 ++ second.records value.2) present = _
    simp only [acceptAll_append, acceptAll_both_first ours, h.taken front deep,
      Option.map_some, Option.bind_eq_bind, Option.bind_some, acceptAll_both_second theirs,
      k.taken back deep]
    rfl

theorem acceptAll_structured {format : Format α} {make : α → σ} {parts : σ → α}
    (make_parts : ∀ value, make (parts value) = value) (parts_make : ∀ x, parts (make x) = x)
    (depth : Nat) (records : List Record) (value : σ) :
    (format.structured make parts).acceptAll depth records value =
      (format.acceptAll depth records (parts value)).map make := by
  induction records generalizing value with
  | nil => simp [acceptAll, make_parts]
  | cons record records ih =>
    simp only [acceptAll] at ih
    simp only [acceptAll, List.foldlM_cons, structured]
    cases format.accept depth record (parts value) with
    | none => rfl
    | some x =>
      have later := ih (make x)
      rw [parts_make] at later
      exact later

theorem Faithful.structured {format : Format α} {levels : Nat} (faithful : Faithful format levels)
    {make : α → σ} {parts : σ → α}
    (make_parts : ∀ value, make (parts value) = value := by exact fun _ => rfl)
    (parts_make : ∀ x, parts (make x) = x := by exact fun _ => rfl) :
    Faithful (format.structured make parts) levels where
  numbered := faithful.numbered
  blocks := faithful.blocks
  written fits := faithful.written fits
  taken {value} fits depth deep present := by
    rw [acceptAll_structured make_parts parts_make]
    change (format.acceptAll depth (format.records (parts value)) (parts present)).map make = _
    rw [faithful.taken fits deep]
    rfl

/-! Alternatives -/

theorem Whole.alternative {format : Format α} {levels : Nat} (whole : Whole format levels)
    (wrap : α → ν) (unwrap : ν → Option α) :
    Faithful (format.alternative wrap unwrap) levels where
  numbered := whole.numbered
  blocks := whole.blocks
  written {value} fits record member := by
    simp only [Fits, encode, Format.alternative] at fits member ⊢
    cases chosen : value >>= unwrap with
    | none =>
      rw [chosen] at member
      contradiction
    | some x =>
      rw [chosen] at fits member
      exact whole.written fits record member
  taken {value} fits depth deep present := by
    simp only [Fits, encode, Format.alternative] at fits ⊢
    cases chosen : value >>= unwrap with
    | none => rfl
    | some x =>
      rw [chosen] at fits
      obtain ⟨record, written⟩ := whole.single x
      have accepted := whole.accept fits deep written ((present >>= unwrap).getD format.empty)
      simp only [acceptAll, Option.elim_some, written, List.foldlM_cons, accepted,
        Option.map_some]
      rfl

theorem find?_alternative {alternatives : List (Format (Option ν))}
    (apart : (alternatives.flatMap (·.numbers)).Nodup) {format : Format (Option ν)}
    (member : format ∈ alternatives) {number : Nat} (known : number ∈ format.numbers) :
    alternatives.find? (fun format => number ∈ format.numbers) = some format := by
  induction alternatives with
  | nil => contradiction
  | cons first rest ih =>
    rw [List.flatMap_cons, List.nodup_append] at apart
    obtain ⟨_, later, across⟩ := apart
    rcases List.mem_cons.mp member with rfl | member
    · simp [known]
    · have other : number ∉ first.numbers := fun ours =>
        across number ours number (List.mem_flatMap.mpr ⟨format, member, known⟩) rfl
      simp only [List.find?_cons, decide_eq_false other]
      exact ih later member

theorem acceptAll_choice {alternatives : List (Format (Option ν))}
    (apart : (alternatives.flatMap (·.numbers)).Nodup) {format : Format (Option ν)}
    (member : format ∈ alternatives) {depth : Nat} {records : List Record}
    (known : ∀ record ∈ records, record.number ∈ format.numbers) (value : Option ν) :
    (choice alternatives).acceptAll depth records value =
      format.acceptAll depth records value := by
  induction records generalizing value with
  | nil => rfl
  | cons record records ih =>
    have found := find?_alternative apart member (known record List.mem_cons_self)
    have later := ih fun r member => known r (List.mem_cons_of_mem _ member)
    simp only [acceptAll] at later
    simp only [acceptAll, List.foldlM_cons, choice, found, Option.bind_eq_bind, Option.bind_some]
    congr 1
    funext value
    exact later value

theorem choice_numbers (alternatives : List (Format (Option ν))) :
    (choice alternatives).numbers = alternatives.flatMap (·.numbers) :=
  List.flatten_singleton

theorem fits_alternative {alternatives : List (Format (Option ν))} {value : Option ν}
    (fits : (choice alternatives).Fits value) {format : Format (Option ν)}
    (member : format ∈ alternatives) : format.Fits value := by
  have shorter : (format.encode value).length ≤ ((choice alternatives).encode value).length := by
    obtain ⟨front, back, rfl⟩ := List.append_of_mem member
    simp only [encode, choice, List.flatMap_append, List.flatMap_cons, List.length_append]
    omega
  exact Nat.lt_of_le_of_lt shorter fits

theorem choice_faithful {alternatives : List (Format (Option ν))} {levels : Nat}
    (faithful : ∀ format ∈ alternatives, Faithful format levels)
    (apart : (alternatives.flatMap (·.numbers)).Nodup := by decide) :
    Faithful (choice alternatives) levels where
  numbered number member := by
    rw [choice_numbers] at member
    obtain ⟨format, among, member⟩ := List.mem_flatMap.mp member
    exact (faithful format among).numbered number member
  blocks number member := by
    rw [choice_numbers]
    obtain ⟨format, among, member⟩ := List.mem_flatMap.mp member
    exact List.mem_flatMap.mpr ⟨format, among, (faithful format among).blocks number member⟩
  written {value} fits record member := by
    rw [choice_numbers]
    obtain ⟨format, among, member⟩ := List.mem_flatMap.mp member
    obtain ⟨number, writable⟩ :=
      (faithful format among).written (fits_alternative fits among) record member
    refine ⟨List.mem_flatMap.mpr ⟨format, among, number⟩, writable.of_blocks fun block => ?_⟩
    -- A number has one alternative only, so its blocks are that alternative's.
    obtain ⟨other, othersAmong, block⟩ := List.mem_flatMap.mp block
    have ours := find?_alternative apart among number
    have theirs := find?_alternative apart othersAmong
      ((faithful other othersAmong).blocks _ block)
    obtain rfl := Option.some.inj (ours.symm.trans theirs)
    exact block
  taken {value} fits depth deep present := by
    have parts : ∀ taken : List (Format (Option ν)), taken ⊆ alternatives → ∀ present,
        (choice alternatives).acceptAll depth (taken.flatMap (·.records value)) present =
          some (taken.foldl (fun present format => format.overlay present value) present) := by
      intro taken among
      induction taken with
      | nil => exact fun _ => rfl
      | cons format taken ih =>
        intro present
        have member := among List.mem_cons_self
        have fits := fits_alternative fits member
        have known : ∀ record ∈ format.records value, record.number ∈ format.numbers :=
          fun record written => ((faithful format member).written fits record written).1
        rw [List.flatMap_cons, acceptAll_append, acceptAll_choice apart member known,
          (faithful format member).taken fits deep]
        exact ih (fun other later => among (List.mem_cons_of_mem _ later)) _
    exact parts alternatives (fun _ member => member) present

/-! Maps -/

theorem binding_apart (value : Format α) (unset : α → Bool) :
    ∀ number ∈ (omitting (· == "") (scalar 1 .text)).numbers,
      number ∉ (omitting unset (message 2 value)).numbers := by
  intro number first second
  obtain rfl := List.mem_singleton.mp first
  exact absurd (List.mem_singleton.mp second) (by decide)

theorem binding_whole {number levels : Nat} {value : Format α} {unset : α → Bool}
    (faithful : Faithful value levels) (numbered : Key.Numbered number := by decide) :
    Whole (binding number value unset) (levels + 2) := by
  have key : Faithful (omitting (· == "") (scalar 1 .text)) (levels + 1) :=
    (scalar_whole Scalar.text_faithful).omitting
  have content : Faithful (omitting unset (message 2 value)) (levels + 1) :=
    (message_whole faithful).omitting
  exact message_whole (key.both content (binding_apart value unset)) numbered

/-- Bindings are taken up in any order in which they come. -/
theorem acceptAll_bindings {number levels depth : Nat} {value : Format α} {unset : α → Bool}
    (whole : Whole (binding number value unset) levels) (deep : levels ≤ depth)
    {pairs : List (String × α)}
    (fits : (repeated (binding number value unset)).Fits pairs) (present : KeyMap α) :
    (map number value unset).acceptAll depth
        (pairs.flatMap (binding number value unset).records) present =
      some (present.insertAll (pairs.map
        ((binding number value unset).overlay (binding number value unset).empty))) := by
  induction pairs generalizing present with
  | nil => rfl
  | cons pair pairs ih =>
    obtain ⟨first, later⟩ := fits_cons fits
    obtain ⟨record, written⟩ := whole.single pair
    have accepted := whole.accept first deep written (binding number value unset).empty
    have rest := ih later
    simp only [acceptAll] at rest
    simp only [List.flatMap_cons, written, acceptAll, List.cons_append, List.nil_append,
      List.foldlM_cons, map, accepted, Option.bind_eq_bind, Option.bind_some]
    exact rest _

theorem bindings_written {number levels : Nat} {value : Format α} {unset : α → Bool}
    (whole : Whole (binding number value unset) levels) {pairs : List (String × α)}
    (fits : (repeated (binding number value unset)).Fits pairs) :
    ∀ record ∈ pairs.flatMap (binding number value unset).records,
      record.number ∈ (map number value unset).numbers ∧
        record.Writable (map number value unset).blocks := by
  intro record member
  obtain ⟨pair, among, isRecord⟩ := List.mem_flatMap.mp member
  obtain ⟨known, writable⟩ := whole.repeated.written fits record member
  refine ⟨known, ?_⟩
  obtain rfl := List.mem_singleton.mp isRecord
  exact ⟨writable.1, writable.2.1, fun _ => rfl⟩

theorem map_faithful {number levels : Nat} {value : Format α} {unset : α → Bool}
    (faithful : Faithful value levels) (numbered : Key.Numbered number := by decide) :
    Faithful (map number value unset) (levels + 2) where
  numbered _ member := by
    obtain rfl := List.mem_singleton.mp member
    exact numbered
  blocks _ member := member
  written fits := bindings_written (binding_whole faithful numbered) fits
  taken {bindings} fits depth deep present :=
    acceptAll_bindings (binding_whole faithful numbered) deep fits present

end Format
end NodeLowering.Wire
