import NodeLowering.Proofs.Tensor.Equality
import NodeLowering.Proofs.Tensor.RowMajor
import NodeLowering.TensorFlow.Attribute

/-! Constants through their messages. The message of a content lists its elements in logical order,
so that whatever the memory layout was, the content that is read back has the same type, shape and
elements, in row-major layout. -/
namespace NodeLowering.TensorFlow
open Layout

namespace TensorProto

theorem small_unsigned (x : UInt8) : (Int32.ofNat x.toNat).toUInt32.toUInt8 = x := by
  apply UInt8.toNat_inj.mp
  have small := x.toNat_lt
  simp only [UInt32.toNat_toUInt8, Int32.toUInt32_ofNat', UInt32.toNat_ofNat']
  omega

/-- Elements that pass through a wider integer type come back as they were. -/
theorem listed_ofContent (content : Content) :
    (ofContent content).listed content.type = content.values := by
  obtain ⟨type, array⟩ := content
  cases type with
  | u8 =>
    change (array.values.map fun x : UInt8 => Int32.ofNat x.toNat).map (·.toUInt32.toUInt8) =
      array.values
    rw [List.map_map]
    exact (List.map_congr_left fun x _ => small_unsigned x).trans (List.map_id' _)
  | i8 =>
    change (array.values.map fun x : Int8 => x.toInt32).map (·.toInt8) = array.values
    rw [List.map_map]
    exact (List.map_congr_left fun x _ => Int8.toInt8_toInt32 x).trans (List.map_id' _)
  | bool | i32 | i64 | f32 | f64 => rfl

theorem extents_ofContent {content : Content} (addressable : content.array.Addressable) :
    (((ofContent content).shape.getD {}).extents) = .ok content.shape := by
  have small : ∀ extent ∈ content.shape, extent < 2 ^ 63 := fun _ => addressable.extent_lt
  have none : ¬ ∃ extent ∈ content.shape, Int64.ofNat extent < 0 := by
    rintro ⟨extent, member, negative⟩
    have positive := Int64.zero_le_ofNat_of_lt (small extent member)
    rw [Int64.lt_iff_toInt_lt] at negative
    rw [Int64.le_iff_toInt_le] at positive
    omega
  have same : content.shape.map (fun extent => (Int64.ofNat extent).toNatClampNeg) =
      content.shape := by
    rw [List.map_congr_left fun extent member =>
      Int64.toNatClampNeg_ofNat_of_lt (small extent member), List.map_id']
  simp only [ofContent, Option.getD_some, TensorShape.extents, List.any_map, List.map_map]
  rw [if_neg (by simpa using none)]
  exact congrArg Except.ok same

/-- As many elements as a shape has places make an array of the shape; a single one is repeated as
often as it takes, which is once. -/
theorem arrangeListed_eq_ok {type : DatumType} {extents : List Nat} {values : List type.Elem}
    (addressable : positiveVolume extents ≤ StridedArray.maxSize)
    (fits : values.length = volume extents) :
    ∃ array, arrangeListed type extents values = .ok array ∧ array.shape = extents ∧
      array.values = values := by
  match values, fits with
  | [x], fits =>
    have one : volume extents = 1 := fits.symm
    have width : volume extents * type.width ≤ StridedArray.maxSize := by
      rw [one]
      cases type <;> decide
    refine ⟨.fill extents x, ?_, StridedArray.shape_rowMajor _ _ _, ?_⟩
    · rw [arrangeListed, broadcast, if_neg (by omega)]
    · rw [StridedArray.fill, StridedArray.values_rowMajor, one]
      rfl
  | [], fits | _ :: _ :: _, fits =>
    refine ⟨.rowMajor extents _ fits, ?_, StridedArray.shape_rowMajor _ _ _,
      StridedArray.values_rowMajor _ _ _⟩
    rw [arrangeListed, arrange, StridedArray.ofValues_eq_ok addressable fits]
    · rfl
    · simp

theorem toContent_ofContent {content : Content} (addressable : content.array.Addressable) :
    ∃ back, (ofContent content).toContent = .ok back ∧ back.type = content.type ∧
      back.Same content := by
  obtain ⟨array, arranged, shape, values⟩ := arrangeListed_eq_ok addressable
    (StridedArray.length_values content.array)
  refine ⟨⟨content.type, array⟩, ?_, rfl, shape, ?_⟩
  · have extents := extents_ofContent addressable
    have listed := listed_ofContent content
    have dtype : DataType.ofCode? (ofContent content).dtype =
        some (DataType.ofDatum content.type) := DataType.ofCode?_code _
    have empty : (ofContent content).content.isEmpty = true := by
      obtain ⟨type, array⟩ := content
      cases type <;> rfl
    simp only [toContent, extents, dtype, empty, DataType.datumType?_ofDatum, listed]
    change (do return ⟨content.type, ← arrangeListed content.type content.array.shape
      content.array.values⟩ : Except (Failure ContentError) Content) = _
    rw [arranged]
    rfl
  · exact congrArg (Sigma.mk content.type) values

/-- The content that is read back from a message is the one that went in: of the same type and
shape, with the same values in logical order, bit for bit. Numerically the two are equal unless
there is a NaN among the values. -/
theorem toContent_ofContent_equal_iff {content : Content}
    (addressable : content.array.Addressable) :
    ∃ back, (ofContent content).toContent = .ok back ∧ back.type = content.type ∧
      back.Same content ∧
      (back.equal content = true ↔ ∀ x ∈ content.values, content.type.isNaN x = false) := by
  obtain ⟨back, read, type, same⟩ := toContent_ofContent addressable
  exact ⟨back, read, type, same, same.equal_iff⟩

/-- Two rows of floating point numbers that lie column by column and bottom up in memory; a negative
zero comes back as it was, and so does a NaN, which is equal to nothing. -/
theorem toContent_ofContent_columns :
    let numbers : List Binary32 := [⟨0x80000000⟩, ⟨0x7fc00001⟩, ⟨0x3f800000⟩, ⟨0⟩, ⟨1⟩, ⟨2⟩]
    let content : Content := ⟨.f32, (StridedArray.columnMajor [2, 3] numbers rfl).invert 0⟩
    content.array.Addressable ∧
      ∃ back, (ofContent content).toContent = .ok back ∧ back.Same content ∧
        back.equal content = false := by
  intro numbers content
  have addressable : content.array.Addressable := by
    change _ ≤ _
    decide
  obtain ⟨back, read, _, same, equal⟩ := toContent_ofContent_equal_iff addressable
  refine ⟨addressable, back, read, same, Bool.eq_false_iff.mpr fun numeric => ?_⟩
  have clean : ∀ x ∈ content.values, content.type.isNaN x = false := equal.mp numeric
  exact absurd clean (by decide)

end TensorProto

namespace NodeDef

/-- The `Const` node of a content. -/
def ofConst (name : String) (content : Content) : NodeDef where
  name := name
  op := "Const"
  attrs := .ofList
    [("dtype", some (.type (DataType.ofDatum content.type).code)),
      ("value", some (.tensor (.ofContent content)))]

theorem attr?_ofConst (name : String) (content : Content) :
    (ofConst name content).attr? "dtype" =
        some (.type (DataType.ofDatum content.type).code) ∧
      (ofConst name content).attr? "value" = some (.tensor (.ofContent content)) := by
  have nodup : (List.map Prod.fst
      [("dtype", some (AttrValue.type (DataType.ofDatum content.type).code)),
        ("value", some (.tensor (.ofContent content)))]).Nodup := by simp
  constructor
  · exact congrArg Option.join (KeyMap.find?_insertAll .empty nodup "dtype")
  · exact congrArg Option.join (KeyMap.find?_insertAll .empty nodup "value")

/-- A constant is folded into the tensor of its content, which is named after the node. -/
theorem toConst_ofConst (name : String) {content : Content}
    (addressable : content.array.Addressable) :
    ∃ back : Content, back.Same content ∧ (ofConst name content).toConst = .ok
      { name := name ++ ":0"
        sourceOps := [name]
        destOps := []
        shape := some (content.shape.map Int64.ofNat)
        dtype := some content.type
        content := some back } := by
  obtain ⟨back, read, type, same⟩ := TensorProto.toContent_ofContent addressable
  obtain ⟨dtype, value⟩ := attr?_ofConst name content
  have datum : (ofConst name content).datumType "dtype" = .ok content.type := by
    simp only [datumType, datumType?, dtype, DataType.ofCode?_code, DataType.toDatumType,
      DataType.datumType?_ofDatum]
    rfl
  have tensor : (ofConst name content).tensor "value" = .ok back := by
    simp only [NodeDef.tensor, tensor?, value, read]
    rfl
  refine ⟨back, same, ?_⟩
  have op : (ofConst name content).op = "Const" := rfl
  simp only [toConst, op, datum, tensor, ne_eq, not_true_eq_false, if_false]
  change (do
    if ¬ back.type = content.type then throw (.refused (.otherType name content.type))
    return (Tensor.withSourceOp { name := name ++ ":0" } name).withContent back :
      Except (Failure NodeError) Tensor) = _
  rw [if_neg (not_not_intro type), ← type, ← same.1]
  rfl

end NodeDef
end NodeLowering.TensorFlow
