import NodeLowering.Proofs.Wire.Grammar
import NodeLowering.Proofs.Wire.Messages

/-! The order of records. A field sees only its own records, so that what is read depends on the
order within each field and not on how the records of the fields are mixed, nor on records of no
field. The law is kept by taking fields together, since they share no record numbers and no part of
the value. -/
namespace NodeLowering.Wire

/-- A whole record with the bytes that stand for it. -/
structure Record.Spelling (depth : Nat) where
  bytes : Bytes
  record : Record
  spells : Record.Spells depth bytes record

namespace Format
variable {α β σ ν : Type}

/-- Takes up records one after the other, passing over those of no field. -/
def absorbAll (format : Format σ) (depth : Nat) (records : List Record) (value : σ) : Option σ :=
  records.foldlM (format.absorb depth) value

/-- Merging whole records takes them up one after the other. -/
theorem merge_spellings {format : Format σ} {depth : Nat} {spellings : List (Record.Spelling depth)}
    (block : ∀ s ∈ spellings, s.record.number ∈ format.blocks → s.record.key.wire = .block)
    (value : σ) : format.merge depth value (spellings.flatMap (·.bytes)) =
      format.absorbAll depth (spellings.map (·.record)) value := by
  induction spellings generalizing value with
  | nil => rfl
  | cons s spellings ih =>
    obtain ⟨first, later⟩ := List.forall_mem_cons.mp block
    rw [List.flatMap_cons, merge_append (s.spells.read_append first _), List.map_cons]
    exact congrArg _ (funext (ih later))

/-- The same records of each field, in the same order. -/
def SameFields (format : Format σ) (first second : List Record) : Prop :=
  ∀ field ∈ format.fields,
    first.filter (·.number ∈ field) = second.filter (·.number ∈ field)

instance (format : Format σ) (first second : List Record) :
    Decidable (format.SameFields first second) :=
  inferInstanceAs (Decidable (∀ field ∈ format.fields,
    first.filter (·.number ∈ field) = second.filter (·.number ∈ field)))

/-- What is taken up depends on the records of each field only. -/
structure Fieldwise (format : Format σ) : Prop where
  absorbAll_eq : ∀ {depth first second value}, format.SameFields first second →
    format.absorbAll depth first value = format.absorbAll depth second value

/-- Records of no field might as well not be there. -/
theorem absorbAll_eq_acceptAll (format : Format σ) (depth : Nat) (records : List Record)
    (value : σ) : format.absorbAll depth records value =
      format.acceptAll depth (records.filter (·.number ∈ format.numbers)) value := by
  induction records generalizing value with
  | nil => rfl
  | cons record records ih =>
    simp only [absorbAll, acceptAll] at ih
    by_cases known : record.number ∈ format.numbers
    · rw [List.filter_cons_of_pos (by simpa using known)]
      simp only [absorbAll, acceptAll, List.foldlM_cons, absorb, if_pos known, ih]
    · rw [List.filter_cons_of_neg (by simpa using known)]
      simp only [absorbAll, acceptAll, List.foldlM_cons, absorb, if_neg known]
      exact ih value

theorem fieldwise_single {format : Format σ} {field : List Nat}
    (single : format.fields = [field] := by rfl) : Fieldwise format where
  absorbAll_eq {depth first second value} same := by
    have numbers : format.numbers = field := by rw [Format.numbers, single, List.flatten_singleton]
    have own := same field (single ▸ List.mem_singleton_self field)
    rw [absorbAll_eq_acceptAll, absorbAll_eq_acceptAll, numbers, own]

/-! Several fields -/

/-- Of two formats that share no numbers, at most one takes notice of a record. -/
theorem absorb_both {first : Format α} {second : Format β}
    (apart : ∀ number ∈ first.numbers, number ∉ second.numbers) (depth : Nat) (value : α × β)
    (record : Record) : (first.both second).absorb depth value record = do
      let x ← first.absorb depth value.1 record
      let y ← second.absorb depth value.2 record
      return (x, y) := by
  simp only [absorb, both_numbers, List.mem_append]
  by_cases ours : record.number ∈ first.numbers
  · have foreign := apart _ ours
    rw [if_pos (.inl ours), if_pos ours, if_neg foreign, accept_both_first ours]
    cases first.accept depth record value.1 <;> rfl
  · by_cases theirs : record.number ∈ second.numbers
    · rw [if_pos (.inr theirs), if_neg ours, if_pos theirs, accept_both_second ours]
      cases second.accept depth record value.2 <;> rfl
    · rw [if_neg (not_or.mpr ⟨ours, theirs⟩), if_neg ours, if_neg theirs]
      rfl

theorem absorbAll_both {first : Format α} {second : Format β}
    (apart : ∀ number ∈ first.numbers, number ∉ second.numbers) (depth : Nat)
    (records : List Record) (value : α × β) :
    (first.both second).absorbAll depth records value = do
      let x ← first.absorbAll depth records value.1
      let y ← second.absorbAll depth records value.2
      return (x, y) := by
  induction records generalizing value with
  | nil => rfl
  | cons record records ih =>
    simp only [absorbAll] at ih
    simp only [absorbAll, List.foldlM_cons, absorb_both apart, ih]
    cases first.absorb depth value.1 record with
    | none => rfl
    | some x =>
      cases second.absorb depth value.2 record with
      | some y => rfl
      | none =>
        -- The first format goes on after the second has failed, which comes to the same.
        cases rest : records.foldlM (first.absorb depth) x <;> simp [rest]

theorem Fieldwise.both {first : Format α} {second : Format β} (h : Fieldwise first)
    (k : Fieldwise second)
    (apart : ∀ number ∈ first.numbers, number ∉ second.numbers := by decide) :
    Fieldwise (first.both second) where
  absorbAll_eq {depth rs ss value} same := by
    have ours : first.SameFields rs ss := fun field member =>
      same field (List.mem_append_left _ member)
    have theirs : second.SameFields rs ss := fun field member =>
      same field (List.mem_append_right _ member)
    rw [absorbAll_both apart, absorbAll_both apart, h.absorbAll_eq ours, k.absorbAll_eq theirs]

theorem Fieldwise.structured {format : Format α} (h : Fieldwise format) {make : α → σ}
    {parts : σ → α} (make_parts : ∀ value, make (parts value) = value := by exact fun _ => rfl)
    (parts_make : ∀ x, parts (make x) = x := by exact fun _ => rfl) :
    Fieldwise (format.structured make parts) where
  absorbAll_eq {depth first second value} same := by
    have through : ∀ records, (format.structured make parts).absorbAll depth records value =
        (format.absorbAll depth records (parts value)).map make := by
      intro records
      rw [absorbAll_eq_acceptAll, acceptAll_structured make_parts parts_make,
        absorbAll_eq_acceptAll]
      rfl
    rw [through, through, h.absorbAll_eq same]

end Format
end NodeLowering.Wire

namespace NodeLowering
open Wire Wire.Format

namespace TensorFlow

theorem Dim.format_fieldwise : Fieldwise Dim.format :=
  .structured <| .both fieldwise_single fieldwise_single

theorem TensorShape.format_fieldwise : Fieldwise TensorShape.format :=
  .structured <| .both fieldwise_single fieldwise_single

theorem TensorProto.format_fieldwise : Fieldwise TensorProto.format :=
  .structured <|
    .both fieldwise_single <| .both fieldwise_single <| .both fieldwise_single <|
    .both fieldwise_single <| .both fieldwise_single <| .both fieldwise_single <|
    .both fieldwise_single <| .both fieldwise_single <| .both fieldwise_single fieldwise_single

theorem ListValue.format_fieldwise : Fieldwise ListValue.format :=
  .structured <|
    .both fieldwise_single <| .both fieldwise_single <| .both fieldwise_single <|
    .both fieldwise_single <| .both fieldwise_single <| .both fieldwise_single fieldwise_single

theorem AttrValue.format_fieldwise : Fieldwise AttrValue.format :=
  fieldwise_single

theorem NodeDef.format_fieldwise : Fieldwise NodeDef.format :=
  .structured <|
    .both fieldwise_single <| .both fieldwise_single <| .both fieldwise_single <|
    .both fieldwise_single fieldwise_single

end TensorFlow

namespace Onnx

theorem Attribute.format_fieldwise : Fieldwise Attribute.format :=
  .structured <|
    .both fieldwise_single <| .both fieldwise_single <| .both fieldwise_single <|
    .both fieldwise_single <| .both fieldwise_single <| .both fieldwise_single <|
    .both fieldwise_single <| .both fieldwise_single <| .both fieldwise_single fieldwise_single

theorem Node.format_fieldwise : Fieldwise Node.format :=
  .structured <|
    .both fieldwise_single <| .both fieldwise_single <| .both fieldwise_single <|
    .both fieldwise_single <| .both fieldwise_single <| .both fieldwise_single fieldwise_single

end Onnx

namespace MessageType

theorem format_fieldwise (type : MessageType) : Fieldwise type.format := by
  cases type with
  | dim => exact TensorFlow.Dim.format_fieldwise
  | tensorShape => exact TensorFlow.TensorShape.format_fieldwise
  | tensorProto => exact TensorFlow.TensorProto.format_fieldwise
  | listValue => exact TensorFlow.ListValue.format_fieldwise
  | attrValue => exact TensorFlow.AttrValue.format_fieldwise
  | nodeDef => exact TensorFlow.NodeDef.format_fieldwise
  | onnxAttribute => exact Onnx.Attribute.format_fieldwise
  | onnxNode => exact Onnx.Node.format_fieldwise

/-- Whole records of no field can be left out. -/
theorem update_filter_known (type : MessageType) (present : type.Value)
    {spellings : List (Record.Spelling maxDepth)}
    (block : ∀ s ∈ spellings, s.record.number ∈ type.format.blocks → s.record.key.wire = .block) :
    type.format.update present
        ((spellings.filter (·.record.number ∈ type.format.numbers)).flatMap (·.bytes)) =
      type.format.update present (spellings.flatMap (·.bytes)) := by
  have kept : ∀ s ∈ spellings.filter (·.record.number ∈ type.format.numbers),
      s.record.number ∈ type.format.blocks → s.record.key.wire = .block :=
    fun s member => block s (List.mem_of_mem_filter member)
  rw [update, update, merge_spellings kept, merge_spellings block, absorbAll_eq_acceptAll,
    absorbAll_eq_acceptAll, List.filter_map, List.filter_map, List.filter_filter]
  simp only [Function.comp_apply, Bool.and_self]
  rfl

/-- Records of whole messages may be mixed as one likes. If two byte strings have the same records
of each field in the same order, merging one comes to the same as merging the other: both fail, or
both give the same message. All alternatives of an attribute's value are one field, and records of
no field, groups among them, may stand anywhere: the message is the same without them. -/
theorem update_eq_of_sameFields (type : MessageType) (present : type.Value)
    {first second : List (Record.Spelling maxDepth)}
    (block : ∀ s ∈ first ++ second, s.record.number ∈ type.format.blocks →
      s.record.key.wire = .block)
    (same : type.format.SameFields (first.map (·.record)) (second.map (·.record))) :
    type.format.update present (first.flatMap (·.bytes)) =
        type.format.update present (second.flatMap (·.bytes)) ∧
      type.format.update present
          ((first.filter (·.record.number ∈ type.format.numbers)).flatMap (·.bytes)) =
        type.format.update present (first.flatMap (·.bytes)) := by
  obtain ⟨firsts, seconds⟩ := List.forall_mem_append.mp block
  refine ⟨?_, type.update_filter_known present firsts⟩
  rw [update, update, merge_spellings firsts, merge_spellings seconds,
    type.format_fieldwise.absorbAll_eq same]

/-- A name that is set twice, an operator and a group that no field declares. The group may come
before the rest, and the operator last, and the group may be left out. -/
theorem update_eq_of_sameFields_mixed :
    let name : Record.Spelling maxDepth := ⟨[0x0A, 1, 0x61], .data 1 (.block [0x61]),
      Record.spells_of_read (by decide) (by decide +kernel)⟩
    let again : Record.Spelling maxDepth := ⟨[0x0A, 0x81, 0, 0x63], .data 1 (.block [0x63]),
      Record.spells_of_read (by decide) (by decide +kernel)⟩
    let op : Record.Spelling maxDepth := ⟨[0x12, 1, 0x62], .data 2 (.block [0x62]),
      Record.spells_of_read (by decide) (by decide +kernel)⟩
    let group : Record.Spelling maxDepth := ⟨[0x7B, 0x08, 1, 0x7C], .group 15,
      Record.spells_of_read (by decide) (by decide +kernel)⟩
    let first := [group, name, again, op]
    let second := [name, op, again]
    (∀ s ∈ first ++ second, s.record.number ∈ nodeDef.format.blocks → s.record.key.wire = .block) ∧
      nodeDef.format.SameFields (first.map (·.record)) (second.map (·.record)) ∧
      nodeDef.format.update { device := "d" } (first.flatMap (·.bytes)) =
        nodeDef.format.update { device := "d" } (second.flatMap (·.bytes)) ∧
      nodeDef.format.update { device := "d" } ([name, again, op].flatMap (·.bytes)) =
        nodeDef.format.update { device := "d" } (first.flatMap (·.bytes)) := by
  intro name again op group first second
  have block : ∀ s ∈ first ++ second, s.record.number ∈ nodeDef.format.blocks →
      s.record.key.wire = .block := by
    decide +kernel
  have same : nodeDef.format.SameFields (first.map (·.record)) (second.map (·.record)) := by
    decide +kernel
  exact ⟨block, same, update_eq_of_sameFields nodeDef { device := "d" } block same⟩

end MessageType
end NodeLowering
