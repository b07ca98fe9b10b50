import Mathlib.Data.List.Forall2
import NodeLowering.TensorFlow.Content

/-! The elements that a tensor message gives, as a relation between the message, a type and values.
Codes of types are what the format of the messages says they are, and small integers are given by
any that are the same modulo 256. Reading is tied to the relation by one equivalence for the codes
and one for the lists. -/
namespace NodeLowering.TensorFlow

/-- The code is that of the type. No other codes stand for types with elements. -/
inductive Coded : Int32 → DatumType → Prop
  | float : Coded 1 .f32
  | double : Coded 2 .f64
  | int32 : Coded 3 .i32
  | uint8 : Coded 4 .u8
  | int8 : Coded 6 .i8
  | int64 : Coded 9 .i64
  | bool : Coded 10 .bool

theorem DataType.ofCode?_eq_some_iff {code : Int32} {dtype : DataType} :
    ofCode? code = some dtype ↔ dtype.code = code := by
  constructor
  · intro found
    exact eq_of_beq (List.find?_some found :)
  · rintro rfl
    exact ofCode?_code dtype

/-- Codes stand for types as they are read. -/
theorem coded_iff {code : Int32} {type : DatumType} : Coded code type ↔
    ∃ dtype, DataType.ofCode? code = some dtype ∧ dtype.datumType? = some type := by
  constructor
  · intro coded
    cases coded <;> exact ⟨_, rfl, rfl⟩
  · rintro ⟨dtype, read, has⟩
    obtain rfl := DataType.ofCode?_eq_some_iff.mp read
    cases dtype <;> cases has <;> constructor

theorem coded_code_iff {dtype : DataType} {type : DatumType} :
    Coded dtype.code type ↔ dtype.datumType? = some type := by
  simp only [coded_iff, DataType.ofCode?_code, Option.some.injEq, exists_eq_left']

theorem Coded.unique {code : Int32} {type other : DatumType} (first : Coded code type)
    (second : Coded code other) : type = other := by
  obtain ⟨dtype, read, has⟩ := coded_iff.mp first
  obtain ⟨dtype', read', has'⟩ := coded_iff.mp second
  rw [read] at read'
  cases read'
  exact Option.some.inj (has.symm.trans has')

/-- The integer differs from the number by a multiple of 256. -/
def Narrows (x : Int32) (n : Int) : Prop := ∃ k : Int, x.toInt = n + 256 * k

namespace TensorProto

/-- The message lists the values as elements of a type. Each type has a list of its own, but for
the small integers, which are narrowed from those of 32 bits. -/
inductive Elements (tensor : TensorProto) : (type : DatumType) → List type.Elem → Prop
  | bools : Elements tensor .bool tensor.bools
  | unsigned {values : List UInt8}
      (narrow : List.Forall₂ (fun x value => Narrows x value.toNat) tensor.ints values) :
      Elements tensor .u8 values
  | signed {values : List Int8}
      (narrow : List.Forall₂ (fun x value => Narrows x value.toInt) tensor.ints values) :
      Elements tensor .i8 values
  | ints : Elements tensor .i32 tensor.ints
  | int64s : Elements tensor .i64 tensor.int64s
  | floats : Elements tensor .f32 tensor.floats
  | doubles : Elements tensor .f64 tensor.doubles

/-- What a list of elements comes to in an array: a single one is repeated. -/
inductive Spread {α : Type} (count : Nat) : List α → List α → Prop
  | single (x : α) : Spread count [x] (List.replicate count x)
  | several {values : List α} (several : values.length ≠ 1) : Spread count values values

/-! Small integers -/

theorem bmod_eq_bmod_iff {a b : Int} : a.bmod 256 = b.bmod 256 ↔ ∃ k : Int, a = b + 256 * k := by
  constructor
  · intro same
    have ha := Int.bmod_add_bdiv a 256
    have hb := Int.bmod_add_bdiv b 256
    exact ⟨a.bdiv 256 - b.bdiv 256, by omega⟩
  · rintro ⟨k, rfl⟩
    exact Int.add_mul_bmod_self_left _ _ _

theorem narrows_toInt_iff (x : Int32) (value : Int8) :
    Narrows x value.toInt ↔ x.toInt8 = value := by
  have own : value.toInt.bmod 256 = value.toInt := value.toInt_bmod
  rw [Narrows, ← bmod_eq_bmod_iff, own, ← Int8.toInt_inj, Int32.toInt_toInt8]

theorem toUInt8_toInt8 (x : Int32) : x.toInt8.toUInt8 = x.toUInt32.toUInt8 := by
  apply UInt8.toBitVec_inj.mp
  simp only [Int8.toBitVec_toUInt8, Int32.toBitVec_toInt8, UInt32.toBitVec_toUInt8,
    Int32.toBitVec_toUInt32]
  exact BitVec.signExtend_eq_setWidth_of_le _ (by decide)

theorem narrows_toNat_iff (x : Int32) (value : UInt8) :
    Narrows x value.toNat ↔ x.toUInt32.toUInt8 = value := by
  -- The same eight bits, read as a signed number.
  have signed : value.toInt8.toInt = (value.toNat : Int).bmod 256 :=
    BitVec.toInt_eq_toNat_bmod value.toBitVec
  have narrow : x.toInt8.toInt = x.toInt.bmod 256 := x.toInt_toInt8
  rw [Narrows, ← bmod_eq_bmod_iff, ← signed, ← narrow, Int8.toInt_inj, ← toUInt8_toInt8]
  constructor
  · intro same
    rw [same, UInt8.toUInt8_toInt8]
  · rintro rfl
    rw [Int8.toInt8_toUInt8]

theorem forall₂_iff_map_eq {α β : Type} {R : α → β → Prop} {f : α → β}
    (same : ∀ x y, R x y ↔ f x = y) {xs : List α} {ys : List β} :
    List.Forall₂ R xs ys ↔ xs.map f = ys := by
  have relation : R = fun x y => f x = y := by
    funext x y
    exact propext (same x y)
  rw [relation, ← List.forall₂_map_left_iff, List.forall₂_eq_eq_eq]

/-- The elements of a type are those that are read. -/
theorem elements_iff {tensor : TensorProto} {type : DatumType} {values : List type.Elem} :
    tensor.Elements type values ↔ tensor.listed type = values := by
  constructor
  · intro elements
    cases elements with
    | unsigned narrow => exact (forall₂_iff_map_eq narrows_toNat_iff).mp narrow
    | signed narrow => exact (forall₂_iff_map_eq narrows_toInt_iff).mp narrow
    | bools | ints | int64s | floats | doubles => rfl
  · rintro rfl
    cases type with
    | bool => exact .bools
    | u8 => exact .unsigned ((forall₂_iff_map_eq narrows_toNat_iff).mpr rfl)
    | i8 => exact .signed ((forall₂_iff_map_eq narrows_toInt_iff).mpr rfl)
    | i32 => exact .ints
    | i64 => exact .int64s
    | f32 => exact .floats
    | f64 => exact .doubles

theorem elements_listed (tensor : TensorProto) (type : DatumType) :
    tensor.Elements type (tensor.listed type) :=
  elements_iff.mpr rfl

theorem Elements.unique {tensor : TensorProto} {type : DatumType} {values others : List type.Elem}
    (first : tensor.Elements type values) (second : tensor.Elements type others) :
    values = others :=
  (elements_iff.mp first).symm.trans (elements_iff.mp second)

end TensorProto
end NodeLowering.TensorFlow
