import NodeLowering.Datum
import NodeLowering.Tensor.Strided

/-! The folded content of a constant tensor: an array of elements of one type. -/
namespace NodeLowering

structure Content where
  type : DatumType
  array : StridedArray type.Elem

namespace Content

def shape (c : Content) : List Nat := c.array.shape

def size (c : Content) : Nat := c.array.size

def isEmpty (c : Content) : Bool := c.size == 0

/-- The elements in logical order. -/
def values (c : Content) : List c.type.Elem := c.array.values

/-- The first element in logical order as a 64-bit integer. There is none if the content is empty
or not of an integer type. -/
def first? (c : Content) : Option Int64 := c.values.head? >>= c.type.toInt64?

/-- Same type, shape and values. Numbers are compared as numbers, so that content with a NaN is
not equal to itself. -/
def equal (c d : Content) : Bool :=
  if same : c.type = d.type then c.array.equal c.type.equal (same ▸ d.array) else false

/-- Same type, shape and values, floating point values compared by their encodings. -/
def Same (c d : Content) : Prop :=
  c.shape = d.shape ∧ (⟨c.type, c.values⟩ : Σ t : DatumType, List t.Elem) = ⟨d.type, d.values⟩

end Content
end NodeLowering
