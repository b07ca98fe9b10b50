import NodeLowering.Proofs.Wire.MessageStreams

/-! Messages that come in parts. A part that can be merged ends where a record ends, and a reader
takes no notice of what follows its record. So what comes after the part is merged into the result,
as if it had come on its own. -/
namespace NodeLowering

namespace Wire.Format
variable {σ : Type} {format : Format σ}

/-- What follows a message that can be merged is merged into the result. -/
theorem merge_concat {depth : Nat} {value next : σ} {front : Bytes}
    (merged : format.merge depth value front = some next) (back : Bytes) :
    format.merge depth value (front ++ back) = format.merge depth next back := by
  obtain ⟨records, items, taken⟩ := Option.bind_eq_some_iff.mp merged
  have whole := Bytes.items_append (Record.read_delimited format.blocks depth) items back
  rw [merge, whole, merge]
  cases Bytes.items (Record.read format.blocks depth) back with
  | none => rfl
  | some later => simp [List.foldlM_append, taken]

/-- Parts that can all be merged, one after the other, can be merged as one. -/
theorem update_flatten {value : σ} {parts : List Bytes} {values : List σ}
    (merged : format.stages value parts = values.map some) :
    format.update value parts.flatten = some (values.getLastD value) := by
  induction parts generalizing value values with
  | nil =>
    obtain rfl := List.map_eq_nil_iff.mp merged.symm
    rfl
  | cons part parts ih =>
    rw [stages] at merged
    split at merged
    · next next first =>
      obtain ⟨_, later, rfl, same, rest⟩ := List.map_eq_cons_iff.mp merged.symm
      obtain rfl := Option.some.inj same
      rw [List.flatten_cons, update, merge_concat first, List.getLastD_cons]
      exact ih rest.symm
    · obtain ⟨_, _, _, none, _⟩ := List.map_eq_cons_iff.mp merged.symm
      contradiction

end Wire.Format

namespace MessageType

/-- If a message can be merged, then merging it with more bytes behind it comes to the same as
merging these into the result: both fail, or both give the same message. So a message in any number
of parts that can be merged in turn is the message that the parts put together are. All this holds
no matter whether blocks are cut off before the fields in them are read or read through, with a look
at their lengths afterwards. -/
theorem update_parts (type : MessageType) (present : type.Value) :
    (∀ value bs, type.updateThrough value bs = type.format.update value bs) ∧
    (∀ (front : Bytes) (next : type.Value), type.format.update present front = some next →
      ∀ back, type.format.update present (front ++ back) = type.format.update next back) ∧
    ∀ (parts : List Bytes) (values : List type.Value),
      type.format.stages present parts = values.map some →
      type.format.update present parts.flatten = some (values.getLastD present) :=
  ⟨type.updateThrough_eq, fun _ _ merged => Wire.Format.merge_concat merged,
    fun _ _ => Wire.Format.update_flatten⟩

/-- A node in three parts: a name and an attribute, a group that no field declares, and another
value for the attribute, in an entry whose length takes more bytes than it needs. -/
theorem update_parts_attribute :
    let first : Bytes := [0x0A, 1, 0x61, 0x2A, 7, 0x0A, 1, 0x54, 0x12, 2, 0x30, 3]
    let group : Bytes := [0x7B, 0x08, 1, 0x7C]
    let last : Bytes := [0x2A, 0x87, 0, 0x0A, 1, 0x54, 0x12, 2, 0x18, 5]
    let typed : TensorFlow.NodeDef := { name := "a", attrs := .ofList [("T", some (.type 3))] }
    let counted : TensorFlow.NodeDef := { name := "a", attrs := .ofList [("T", some (.int 5))] }
    nodeDef.format.update {} first = some typed ∧
      nodeDef.format.update {} (first ++ [0x7B]) = nodeDef.format.update typed [0x7B] ∧
      nodeDef.format.stages {} [first, group, last] = [typed, typed, counted].map some ∧
      nodeDef.format.update {} [first, group, last].flatten = some counted ∧
      nodeDef.updateThrough {} [first, group, last].flatten = some counted := by
  intro first group last typed counted
  have merged : nodeDef.format.update {} first = some typed := by decide +kernel
  have stages : nodeDef.format.stages {} [first, group, last] =
      [typed, typed, counted].map some := by
    decide +kernel
  obtain ⟨through, concat, parts⟩ := update_parts nodeDef {}
  have whole := parts _ _ stages
  exact ⟨merged, concat first typed merged [0x7B], stages, whole, (through _ _).trans whole⟩

end MessageType
end NodeLowering
