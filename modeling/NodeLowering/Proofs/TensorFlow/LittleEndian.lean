import NodeLowering.Proofs.Bytes.Spelling
import NodeLowering.TensorFlow.Content

/-! Elements as little-endian bytes. Every byte string of an element's width is the encoding of one
element, except that a truth value takes one bit of its byte. So the elements that a byte string
holds are those whose encodings, one behind the other, are the byte string. -/
namespace NodeLowering

namespace Bytes

theorem ofNat_toNat (bs : Bytes) : ofNat bs.length (toNat bs) = bs := by
  induction bs with
  | nil => rfl
  | cons b bs ih =>
    have small := b.toNat_lt
    have low : UInt8.ofNat (b.toNat + 256 * toNat bs) = b := by
      apply UInt8.toNat_inj.mp
      rw [UInt8.toNat_ofNat']
      omega
    have high : (b.toNat + 256 * toNat bs) / 256 = toNat bs := by omega
    rw [List.length_cons, toNat, ofNat, low, high, ih]

/-- Byte strings whose length is a multiple of a width fall into pieces of the width. -/
theorem exists_pieces {width : Nat} {bs : Bytes} (whole : width ∣ bs.length) :
    ∃ pieces : List Bytes, (∀ piece ∈ pieces, piece.length = width) ∧ bs = pieces.flatten := by
  obtain ⟨count, length⟩ := whole
  induction count generalizing bs with
  | zero => exact ⟨[], by simp, List.eq_nil_of_length_eq_zero length⟩
  | succ count ih =>
    rw [Nat.mul_succ] at length
    have shorter : (bs.drop width).length = width * count := by
      rw [List.length_drop]
      omega
    obtain ⟨pieces, each, rest⟩ := ih shorter
    refine ⟨bs.take width :: pieces, List.forall_mem_cons.mpr ⟨?_, each⟩, ?_⟩
    · rw [List.length_take]
      omega
    · rw [List.flatten_cons, ← rest, List.take_append_drop]

end Bytes

namespace DatumType

/-- The number whose little-endian encoding stands for the element. -/
def toBits : (type : DatumType) → type.Elem → Nat
  | bool, b => b.toNat
  | u8, x => x.toNat
  | i8, x => x.toUInt8.toNat
  | i32, x => x.toUInt32.toNat
  | i64, x => x.toUInt64.toNat
  | f32, x => x.bits.toNat
  | f64, x => x.bits.toNat

def littleEndian (type : DatumType) (x : type.Elem) : Bytes :=
  Bytes.ofNat type.width (type.toBits x)

theorem width_pos (type : DatumType) : 0 < type.width := by
  cases type <;> decide

theorem toBits_lt (type : DatumType) (x : type.Elem) :
    type.toBits x < Bytes.capacity type.width := by
  cases type with
  | bool => cases x <;> decide
  | u8 => exact UInt8.toNat_lt x
  | i8 => exact (Int8.toUInt8 x).toNat_lt
  | i32 => exact (Int32.toUInt32 x).toNat_lt
  | i64 => exact (Int64.toUInt64 x).toNat_lt
  | f32 => exact (Binary32.bits x).toNat_lt
  | f64 => exact (Binary64.bits x).toNat_lt

theorem ofBits_toBits (type : DatumType) (x : type.Elem) : type.ofBits (type.toBits x) = x := by
  cases type with
  | bool => cases x <;> rfl
  | u8 | i8 | i32 | i64 | f32 | f64 => simp [ofBits, toBits]

theorem toBits_ofBits {type : DatumType} (numeric : type ≠ bool) {n : Nat}
    (small : n < Bytes.capacity type.width) : type.toBits (type.ofBits n) = n := by
  cases type with
  | bool => exact absurd rfl numeric
  | u8 | i8 | i32 | i64 | f32 | f64 =>
    simp only [Bytes.capacity, width] at small
    simp only [ofBits, toBits, UInt8.toUInt8_toInt8, UInt32.toUInt32_toInt32,
      UInt64.toUInt64_toInt64, UInt8.toNat_ofNat', UInt32.toNat_ofNat', UInt64.toNat_ofNat']
    omega

theorem length_littleEndian (type : DatumType) (x : type.Elem) :
    (type.littleEndian x).length = type.width :=
  Bytes.length_ofNat _ _

theorem ofBits_littleEndian (type : DatumType) (x : type.Elem) :
    type.ofBits (Bytes.toNat (type.littleEndian x)) = x := by
  rw [littleEndian, Bytes.toNat_ofNat, Nat.mod_eq_of_lt (type.toBits_lt x), ofBits_toBits]

theorem littleEndian_ofBits {type : DatumType} (numeric : type ≠ bool) {piece : Bytes}
    (length : piece.length = type.width) :
    type.littleEndian (type.ofBits (Bytes.toNat piece)) = piece := by
  have small := Bytes.toNat_lt piece
  rw [length] at small
  rw [littleEndian, toBits_ofBits numeric small, ← length, Bytes.ofNat_toNat]

theorem length_flatMap_littleEndian (type : DatumType) (values : List type.Elem) :
    (values.flatMap type.littleEndian).length = values.length * type.width := by
  rw [List.length_flatMap]
  simp only [length_littleEndian, List.map_const', List.sum_replicate_nat]

end DatumType

namespace TensorFlow.TensorProto

/-- The elements that are read from bytes are those whose encodings make up the bytes. -/
theorem unpack_eq_ok_iff {type : DatumType} (numeric : type ≠ .bool) {content : Bytes}
    {values : List type.Elem} :
    unpack type content = .ok values ↔ content = values.flatMap type.littleEndian := by
  have pieces := @Bytes.items_cut_eq_some_iff _ type.width_pos content
  constructor
  · intro h
    rw [unpack] at h
    split at h
    · next found =>
      cases h
      obtain ⟨each, whole⟩ := pieces.mp found
      rw [whole, List.flatMap_map, List.flatMap_def,
        List.map_congr_left fun piece member =>
          DatumType.littleEndian_ofBits numeric (each piece member),
        List.map_id']
    · contradiction
  · rintro rfl
    have found : Bytes.items (Bytes.cut type.width) (values.flatMap type.littleEndian) =
        some (values.map type.littleEndian) := by
      refine pieces.mpr ⟨?_, List.flatMap_def⟩
      rw [List.forall_mem_map]
      exact fun x _ => type.length_littleEndian x
    rw [unpack, found]
    simp only [List.map_map, Function.comp_def, DatumType.ofBits_littleEndian, List.map_id']

/-- Elements can be read from bytes exactly if these come in whole widths. -/
theorem unpack_isOk_iff {type : DatumType} (numeric : type ≠ .bool) {content : Bytes} :
    (∃ values, unpack type content = .ok values) ↔ type.width ∣ content.length := by
  constructor
  · rintro ⟨values, read⟩
    rw [(unpack_eq_ok_iff numeric).mp read, type.length_flatMap_littleEndian]
    exact Nat.dvd_mul_left _ _
  · intro whole
    obtain ⟨pieces, each, same⟩ := Bytes.exists_pieces whole
    rw [unpack, (Bytes.items_cut_eq_some_iff type.width_pos).mpr ⟨each, same⟩]
    exact ⟨_, rfl⟩

end TensorFlow.TensorProto
end NodeLowering
