import NodeLowering.Tensor.Layout

/-! Arrays of any number of dimensions over a flat buffer. The shape and the values in logical
order are what a reader of an array sees; the memory layout is not part of either. -/
namespace NodeLowering

/-- Why values do not make an array of a shape. -/
inductive ShapeError where
  | overflow | tooFewValues | tooManyValues
  deriving DecidableEq

def ShapeError.message : ShapeError → String
  | overflow => "ShapeError/Overflow: arithmetic overflow"
  | tooFewValues => "ShapeError/OutOfBounds: out of bounds indexing"
  | tooManyValues => "ShapeError/IncompatibleShape: incompatible shapes"

/-- A view of a buffer along axes. -/
structure StridedArray (α : Type) where
  axes : List Layout.Axis
  buffer : Array α
  within : Layout.Within axes buffer.size

namespace StridedArray
open Layout
variable {α : Type}

/-- The largest product of positive dimensions that a shape may have, and the largest number of
bytes that an array may take: the largest signed number of 64 bits. -/
def maxSize : Nat := 9223372036854775807

def shape (a : StridedArray α) : List Nat := a.axes.map (·.extent)

/-- Whether a machine with 64-bit addresses can index an array of the shape. -/
def Addressable (a : StridedArray α) : Prop := positiveVolume a.shape ≤ maxSize

/-- Number of elements. -/
def size (a : StridedArray α) : Nat := volume a.shape

/-- The elements in logical order. -/
def values (a : StridedArray α) : List α :=
  (offsets a.axes).pmap (fun o (h : o < a.buffer.size) => a.buffer[o]) fun _ => a.within.offset_lt

/-- The array of a shape with the given elements in logical order, which is also their order in
memory. -/
def rowMajor (shape : List Nat) (values : List α) (fits : values.length = volume shape) :
    StridedArray α :=
  ⟨Layout.rowMajor shape, values.toArray, by simpa [fits] using rowMajor_within shape⟩

/-- The array of a shape whose elements in memory, the first index fastest, are given. -/
def columnMajor (shape : List Nat) (values : List α) (fits : values.length = volume shape) :
    StridedArray α :=
  ⟨Layout.columnMajor shape, values.toArray, by simpa [fits] using columnMajor_within shape⟩

/-- Runs axis `k` backwards, leaving the buffer as it is. -/
def invert (k : Nat) (a : StridedArray α) : StridedArray α :=
  ⟨reverse k a.axes, a.buffer, a.within.reverse k⟩

/-- The array without dimensions that holds `x`. -/
def scalar (x : α) : StridedArray α := rowMajor [] [x] rfl

/-- The array with one dimension that holds `xs`. -/
def vector (xs : List α) : StridedArray α := rowMajor [xs.length] xs (by simp)

/-- Every element is `x`. -/
def fill (shape : List Nat) (x : α) : StridedArray α :=
  rowMajor shape (List.replicate (volume shape) x) (by simp)

/-- The row-major array of a shape, if the shape is addressable and takes all the values. -/
def ofValues (shape : List Nat) (values : List α) : Except ShapeError (StridedArray α) :=
  if maxSize < positiveVolume shape then .error .overflow
  else if fits : values.length = volume shape then .ok (rowMajor shape values fits)
  else if values.length < volume shape then .error .tooFewValues
  else .error .tooManyValues

/-- Same shape and pairwise equal values. -/
def equal (same : α → α → Bool) (a b : StridedArray α) : Bool :=
  a.shape == b.shape && (a.values.length == b.values.length) &&
    (a.values.zip b.values).all fun (x, y) => same x y

@[simp] theorem shape_rowMajor (shape : List Nat) (values : List α)
    (fits : values.length = volume shape) : (rowMajor shape values fits).shape = shape :=
  extents_rowMajor shape

@[simp] theorem shape_columnMajor (shape : List Nat) (values : List α)
    (fits : values.length = volume shape) : (columnMajor shape values fits).shape = shape :=
  extents_columnMajor shape

@[simp] theorem shape_invert (k : Nat) (a : StridedArray α) : (a.invert k).shape = a.shape :=
  extents_reverse k a.axes

@[simp] theorem length_values (a : StridedArray α) : a.values.length = a.size := by
  simp [values, size, shape, length_offsets]

end StridedArray
end NodeLowering
