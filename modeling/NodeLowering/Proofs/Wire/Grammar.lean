import NodeLowering.Proofs.Wire.Faithful
import NodeLowering.Proofs.Wire.Spelling

/-! Which byte strings a format reads, as a grammar over the declared fields of a message. The
relations know nothing of reading and of the values read; a format conforms to a declaration if it
takes up what the grammar allows and nothing else, whatever value is present. The law is kept by
the ways of putting formats together. -/
namespace NodeLowering.Wire

/-- What a field is declared to hold. -/
inductive Kind where
  /-- Any payload of the wire type. -/
  | plain (wire : WireType)
  | text
  /-- Numbers, each with a key of its own or many in a block. -/
  | packed (wire : WireType)
  | message (fields : List (Nat × Kind))

/-- The fields that a message declares, each with its number. -/
abbrev Fields := List (Nat × Kind)

mutual

/-- The payloads of a field. Messages in it have one level less than the field. -/
inductive Takes : Kind → (depth : Nat) → Payload → Prop
  | plain {wire : WireType} {depth : Nat} {payload : Payload} (same : payload.wire = wire) :
      Takes (.plain wire) depth payload
  | text {depth : Nat} (s : String) : Takes .text depth (.block (Utf8.bytes s))
  | single {wire : WireType} {depth : Nat} {payload : Payload} (same : payload.wire = wire) :
      Takes (.packed wire) depth payload
  | packed {wire : WireType} {depth : Nat} {content : Bytes} {payloads : List Payload}
      (split : Bytes.Spell (fun front payload => payload.wire = wire ∧ payload.Spells front)
        content payloads) : Takes (.packed wire) depth (.block content)
  | message {fields : Fields} {depth : Nat} {content : Bytes}
      (inner : Message fields depth content) :
      Takes (.message fields) (depth + 1) (.block content)

/-- The byte strings that are messages: records one behind the other, where those of a declared
field have one of its payloads. -/
inductive Message : Fields → (depth : Nat) → Bytes → Prop
  | nil {fields : Fields} {depth : Nat} : Message fields depth []
  | known {fields : Fields} {depth number : Nat} {kind : Kind} {payload : Payload}
      {front rest : Bytes} (declared : (number, kind) ∈ fields)
      (spelled : Record.Spells depth front (.data number payload))
      (takes : Takes kind depth payload) (later : Message fields depth rest) :
      Message fields depth (front ++ rest)
  | unknown {fields : Fields} {depth : Nat} {record : Record} {front rest : Bytes}
      (foreign : record.number ∉ fields.map Prod.fst)
      (spelled : Record.Spells depth front record) (later : Message fields depth rest) :
      Message fields depth (front ++ rest)

end

/-- The scalar reads every payload of its wire type and no other. -/
def Scalar.Plain {α : Type} (s : Scalar α) : Prop :=
  ∀ payload, (s.ofPayload payload).isSome ↔ payload.wire = s.wire

namespace Scalar

theorem int64_plain : int64.Plain := fun payload => by cases payload <;> simp [int64, Payload.wire]

theorem int32_plain : int32.Plain := fun payload => by cases payload <;> simp [int32, Payload.wire]

theorem bool_plain : bool.Plain := fun payload => by cases payload <;> simp [bool, Payload.wire]

theorem float_plain : float.Plain := fun payload => by cases payload <;> simp [float, Payload.wire]

theorem double_plain : double.Plain := fun payload => by
  cases payload <;> simp [double, Payload.wire]

theorem bytes_plain : bytes.Plain := fun payload => by cases payload <;> simp [bytes, Payload.wire]

end Scalar

namespace Format
variable {α β σ ν : Type}

theorem merge_append {format : Format σ} {depth : Nat} {front rest : Bytes} {record : Record}
    (read : Record.read format.blocks depth (front ++ rest) = some (record, rest)) (value : σ) :
    format.merge depth value (front ++ rest) =
      format.absorb depth value record >>= fun value => format.merge depth value rest :=
  Bytes.foldlM_items_of_item (Record.read_delimited _ _) read (format.absorb depth) value

/-- The format takes up the payloads of the declared fields and no others, where messages may have
more than `levels` further levels. -/
structure Conforms (format : Format σ) (fields : Fields) (levels : Nat) : Prop where
  numbers : format.numbers = fields.map Prod.fst
  blocks : format.blocks = []
  data : ∀ {number kind}, (number, kind) ∈ fields → ∀ {depth}, levels < depth → ∀ payload value,
    (format.accept depth (.data number payload) value).isSome ↔ Takes kind depth payload
  group : ∀ {number}, number ∈ format.numbers → ∀ depth value,
    format.accept depth (.group number) value = none

/-- Records that are taken up make a message. -/
theorem Conforms.message_of_absorbed {format : Format σ} {fields : Fields} {levels depth : Nat}
    (conforms : Conforms format fields levels) (deep : levels < depth) {bs : Bytes}
    {records : List Record} (split : Bytes.Spell (Record.Spells depth) bs records)
    {value result : σ} (taken : records.foldlM (format.absorb depth) value = some result) :
    Message fields depth bs := by
  induction records generalizing bs value with
  | nil =>
    rw [Bytes.spell_nil.mp split]
    exact .nil
  | cons record records ih =>
    obtain ⟨front, rest, spelled, later, rfl⟩ := Bytes.spell_cons.mp split
    obtain ⟨next, absorbed, taken⟩ := Option.bind_eq_some_iff.mp taken
    have message := ih later taken
    rw [absorb] at absorbed
    split at absorbed
    · next known =>
      cases record with
      | group number =>
        have refused := conforms.group known depth value
        cases absorbed.symm.trans refused
      | data number payload =>
        rw [conforms.numbers] at known
        obtain ⟨⟨_, kind⟩, declared, rfl⟩ := List.mem_map.mp known
        have takes := (conforms.data declared deep payload value).mp
          (Option.isSome_iff_exists.mpr ⟨next, absorbed⟩)
        exact .known declared spelled takes message
    · next foreign => exact .unknown (conforms.numbers ▸ foreign) spelled message

/-- A message is taken up record by record. -/
theorem Conforms.merge_of_message {format : Format σ} {fields : Fields} {levels depth : Nat}
    (conforms : Conforms format fields levels) (deep : levels < depth) {bs : Bytes}
    (message : Message fields depth bs) (value : σ) : (format.merge depth value bs).isSome := by
  -- What fields take is left to the law, so the induction is over the records of one message.
  refine @Message.rec (fun _ _ _ _ => True)
    (fun declared depth bs _ => declared = fields → levels < depth →
      ∀ value, (format.merge depth value bs).isSome)
    (fun _ => trivial) (fun _ => trivial) (fun _ => trivial) (fun _ => trivial)
    (fun _ _ => trivial) ?nil ?known ?unknown fields depth bs message rfl deep value
  case nil =>
    intros
    rfl
  case known =>
    rintro _ depth number kind payload front rest declared spelled takes - - ih rfl deep value
    have read := (Record.read_reads (Nat.zero_lt_of_lt deep)).append spelled rest
    rw [← conforms.blocks] at read
    have accepted := (conforms.data declared deep payload value).mpr takes
    obtain ⟨next, accepted⟩ := Option.isSome_iff_exists.mp accepted
    have member : number ∈ format.numbers := by
      rw [conforms.numbers]
      exact List.mem_map_of_mem declared
    have absorbed : format.absorb depth value (.data number payload) = some next := by
      rw [absorb, Record.number, if_pos member, accepted]
    rw [merge_append read, absorbed]
    exact ih rfl deep next
  case unknown =>
    rintro _ depth record front rest foreign spelled - ih rfl deep value
    have read := (Record.read_reads (Nat.zero_lt_of_lt deep)).append spelled rest
    rw [← conforms.blocks] at read
    rw [← conforms.numbers] at foreign
    rw [merge_append read, absorb, if_neg foreign]
    exact ih rfl deep value

/-- A format that conforms reads exactly the messages of the declared fields. -/
theorem Conforms.merge_isSome_iff {format : Format σ} {fields : Fields} {levels depth : Nat}
    (conforms : Conforms format fields levels) (deep : levels < depth) (value : σ) (bs : Bytes) :
    (format.merge depth value bs).isSome ↔ Message fields depth bs := by
  constructor
  · intro merged
    obtain ⟨result, merged⟩ := Option.isSome_iff_exists.mp merged
    obtain ⟨records, items, taken⟩ := Option.bind_eq_some_iff.mp merged
    have reads := Record.read_reads (Nat.zero_lt_of_lt deep)
    rw [conforms.blocks, reads.items_eq_some_iff] at items
    exact conforms.message_of_absorbed deep items taken
  · intro message
    exact conforms.merge_of_message deep message value

/-! One value -/

theorem scalar_conforms {number levels : Nat} {s : Scalar α} (plain : s.Plain) :
    Conforms (scalar number s) [(number, .plain s.wire)] levels where
  numbers := rfl
  blocks := rfl
  data {_ _} declared {depth} _ payload value := by
    cases List.mem_singleton.mp declared
    constructor
    · intro accepted
      exact .plain ((plain payload).mp accepted)
    · intro takes
      cases takes with
      | plain same => exact (plain payload).mpr same
  group _ _ _ := rfl

theorem text_conforms {number levels : Nat} :
    Conforms (scalar number .text) [(number, .text)] levels where
  numbers := rfl
  blocks := rfl
  data {_ _} declared {depth} _ payload value := by
    cases List.mem_singleton.mp declared
    constructor
    · intro accepted
      obtain ⟨s, accepted⟩ := Option.isSome_iff_exists.mp accepted
      cases payload with
      | block content =>
        rw [Utf8.decode_eq_some_iff.mp accepted]
        exact .text s
      | _ => contradiction
    · intro takes
      cases takes with
      | text s => exact Option.isSome_iff_exists.mpr ⟨s, Utf8.decode_bytes s⟩
  group _ _ _ := rfl

theorem message_conforms {number levels : Nat} {format : Format α} {fields : Fields}
    (conforms : Conforms format fields levels) :
    Conforms (message number format) [(number, .message fields)] (levels + 1) where
  numbers := rfl
  blocks := rfl
  data {_ _} declared {depth} deep payload value := by
    cases List.mem_singleton.mp declared
    obtain ⟨depth, rfl⟩ : ∃ n, depth = n + 1 := ⟨depth - 1, by omega⟩
    constructor
    · intro accepted
      cases payload with
      | block content =>
        exact .message ((conforms.merge_isSome_iff (by omega) value content).mp accepted)
      | _ => contradiction
    · intro takes
      cases takes with
      | message inner => exact (conforms.merge_isSome_iff (by omega) value _).mpr inner
  group _ depth _ := by cases depth <;> rfl

theorem Conforms.omitting {format : Format α} {fields : Fields} {levels : Nat} {unset : α → Bool}
    (conforms : Conforms format fields levels) :
    Conforms (format.omitting unset) fields levels where
  numbers := conforms.numbers
  blocks := conforms.blocks
  data := conforms.data
  group := conforms.group

theorem Conforms.optional {format : Format α} {fields : Fields} {levels : Nat}
    (conforms : Conforms format fields levels) : Conforms format.optional fields levels where
  numbers := conforms.numbers
  blocks := conforms.blocks
  data declared _ deep payload value := by
    rw [← conforms.data declared deep payload (value.getD format.empty)]
    exact Bool.coe_iff_coe.mpr Option.isSome_map
  group known depth value := by
    simp [Format.optional, conforms.group known]

/-! Lists -/

theorem Conforms.repeated {format : Format α} {fields : Fields} {levels : Nat}
    (conforms : Conforms format fields levels) : Conforms format.repeated fields levels where
  numbers := conforms.numbers
  blocks := conforms.blocks
  data declared _ deep payload value := by
    rw [← conforms.data declared deep payload format.empty]
    simp [Format.repeated, Option.isSome_bind]
  group known depth value := by
    simp [Format.repeated, conforms.group known]

/-- The numbers in a block end where payloads of their wire type end. -/
theorem items_item_isSome_iff {s : Scalar α} (plain : s.Plain) (content : Bytes) :
    (Bytes.items (item s) content).isSome ↔ ∃ payloads : List Payload,
      Bytes.Spell (fun front payload => payload.wire = s.wire ∧ payload.Spells front) content
        payloads := by
  have reads := Payload.read_reads s.wire
  have ends : ∀ bs, (item s bs).map Prod.snd = (Payload.read s.wire bs).map Prod.snd := by
    intro bs
    rw [item]
    cases read : Payload.read s.wire bs with
    | none => rfl
    | some pair =>
      obtain ⟨payload, rest⟩ := pair
      obtain ⟨front, ⟨wire, _⟩, _⟩ := reads.eq_some_iff.mp read
      obtain ⟨value, taken⟩ := Option.isSome_iff_exists.mp ((plain payload).mpr wire)
      simp [taken]
  rw [Bytes.items_isSome_congr ends, Option.isSome_iff_exists]
  exact exists_congr fun payloads => reads.items_eq_some_iff

theorem packed_conforms {number levels : Nat} {s : Scalar α} (plain : s.Plain)
    (numeric : s.wire ≠ .block := by decide) :
    Conforms (packed number s) [(number, .packed s.wire)] levels where
  numbers := rfl
  blocks := rfl
  data {_ _} declared {depth} _ payload values := by
    cases List.mem_singleton.mp declared
    have block : ∀ content, ((packed number s).accept depth (.data number (.block content))
        values).isSome = (Bytes.items (item s) content).isSome := fun content =>
      Option.isSome_map
    have other : payload.wire ≠ .block →
        ((packed number s).accept depth (.data number payload) values).isSome =
          (s.ofPayload payload).isSome := by
      intro different
      cases payload with
      | block content => exact absurd rfl different
      | _ => exact Option.isSome_map
    constructor
    · intro accepted
      by_cases wire : payload.wire = .block
      · cases payload with
        | block content =>
          rw [block] at accepted
          obtain ⟨payloads, split⟩ := (items_item_isSome_iff plain content).mp accepted
          exact .packed split
        | _ => contradiction
      · rw [other wire] at accepted
        exact .single ((plain payload).mp accepted)
    · intro takes
      cases takes with
      | single same =>
        rw [other (same ▸ numeric)]
        exact (plain payload).mpr same
      | packed split =>
        rw [block]
        exact (items_item_isSome_iff plain _).mpr ⟨_, split⟩
  group _ _ _ := rfl

/-! Several fields -/

theorem Conforms.both {first : Format α} {second : Format β} {field : Nat × Kind} {fields : Fields}
    {levels : Nat} (h : Conforms first [field] levels) (k : Conforms second fields levels)
    (apart : field.1 ∉ fields.map Prod.fst := by decide) :
    Conforms (first.both second) (field :: fields) levels where
  numbers := by
    rw [both_numbers, h.numbers, k.numbers]
    rfl
  blocks := by
    rw [Format.both, h.blocks, k.blocks]
    rfl
  data {number kind} declared depth deep payload value := by
    have numbers : first.numbers = [field.1] := h.numbers
    rcases List.mem_cons.mp declared with rfl | later
    · have ours : number ∈ first.numbers := numbers ▸ List.mem_singleton_self number
      rw [accept_both_first ours, Option.isSome_map]
      exact h.data (List.mem_singleton_self _) deep payload value.1
    · have foreign : number ∉ first.numbers := by
        intro ours
        rw [numbers, List.mem_singleton] at ours
        exact apart (ours ▸ List.mem_map_of_mem later)
      rw [accept_both_second foreign, Option.isSome_map]
      exact k.data later deep payload value.2
  group {number} known depth value := by
    rw [both_numbers] at known
    by_cases ours : number ∈ first.numbers
    · rw [accept_both_first ours, h.group ours, Option.map_none]
    · have theirs := (List.mem_append.mp known).resolve_left ours
      rw [accept_both_second ours, k.group theirs, Option.map_none]

theorem Conforms.structured {format : Format α} {fields : Fields} {levels : Nat}
    (conforms : Conforms format fields levels) {make : α → σ} {parts : σ → α} :
    Conforms (format.structured make parts) fields levels where
  numbers := conforms.numbers
  blocks := conforms.blocks
  data declared _ deep payload value := by
    rw [← conforms.data declared deep payload (parts value)]
    exact Bool.coe_iff_coe.mpr Option.isSome_map
  group known depth value := by
    simp [Format.structured, conforms.group known]

/-! Alternatives -/

theorem Conforms.alternative {format : Format α} {fields : Fields} {levels : Nat}
    (conforms : Conforms format fields levels) (wrap : α → ν) (unwrap : ν → Option α) :
    Conforms (format.alternative wrap unwrap) fields levels where
  numbers := conforms.numbers
  blocks := conforms.blocks
  data declared _ deep payload value := by
    rw [← conforms.data declared deep payload ((value >>= unwrap).getD format.empty)]
    exact Bool.coe_iff_coe.mpr Option.isSome_map
  group known depth value := by
    simp [Format.alternative, conforms.group known]

theorem exists_alternative {alternatives : List (Format (Option ν))} {fields : Fields}
    {levels : Nat}
    (each : List.Forall₂ (fun format field => Conforms format [field] levels) alternatives fields)
    {field : Nat × Kind} (declared : field ∈ fields) :
    ∃ format ∈ alternatives, Conforms format [field] levels := by
  induction each with
  | nil => contradiction
  | cons first _ ih =>
    rcases List.mem_cons.mp declared with rfl | later
    · exact ⟨_, List.mem_cons_self, first⟩
    · obtain ⟨format, member, conforms⟩ := ih later
      exact ⟨format, List.mem_cons_of_mem _ member, conforms⟩

theorem choice_conforms {alternatives : List (Format (Option ν))} {fields : Fields} {levels : Nat}
    (each : List.Forall₂ (fun format field => Conforms format [field] levels) alternatives fields)
    (apart : (fields.map Prod.fst).Nodup := by decide) :
    Conforms (choice alternatives) fields levels := by
  have numbers : alternatives.flatMap (·.numbers) = fields.map Prod.fst := by
    clear apart
    induction each with
    | nil => rfl
    | cons first _ ih =>
      rw [List.flatMap_cons, first.numbers, ih]
      rfl
  have blocks : alternatives.flatMap (·.blocks) = [] := by
    clear numbers apart
    induction each with
    | nil => rfl
    | cons first _ ih => rw [List.flatMap_cons, first.blocks, ih, List.nil_append]
  have accept : ∀ {number kind}, (number, kind) ∈ fields → ∃ format : Format (Option ν),
      Conforms format [(number, kind)] levels ∧ ∀ depth record value, record.number = number →
        (choice alternatives).accept depth record value = format.accept depth record value := by
    intro number kind declared
    obtain ⟨format, member, conforms⟩ := exists_alternative each declared
    refine ⟨format, conforms, ?_⟩
    rintro depth record value rfl
    have known : record.number ∈ format.numbers := by
      rw [conforms.numbers]
      exact List.mem_singleton_self _
    simp [choice, find?_alternative (numbers ▸ apart) member known]
  exact {
    numbers := (choice_numbers alternatives).trans numbers
    blocks := blocks
    data := by
      intro number kind declared depth deep payload value
      obtain ⟨format, conforms, same⟩ := accept declared
      rw [same depth _ value rfl]
      exact conforms.data (List.mem_singleton_self _) deep payload value
    group := by
      intro number known depth value
      rw [choice_numbers, numbers] at known
      obtain ⟨⟨_, kind⟩, declared, rfl⟩ := List.mem_map.mp known
      obtain ⟨format, conforms, same⟩ := accept declared
      rw [same depth _ value rfl, conforms.group]
      rw [conforms.numbers]
      exact List.mem_singleton_self _ }

end Format
end NodeLowering.Wire
