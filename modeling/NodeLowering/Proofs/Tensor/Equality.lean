import NodeLowering.Tensor.Content

/-! Numeric equality of contents. Contents with the same encodings are equal unless there is a NaN
among their values: the sign of a zero and the payload of a NaN are part of an encoding only. -/
namespace NodeLowering

theorem Binary32.equal_self (x : Binary32) : x.equal x = !x.isNaN := by
  simp [equal]

theorem Binary64.equal_self (x : Binary64) : x.equal x = !x.isNaN := by
  simp [equal]

namespace DatumType

theorem equal_self (type : DatumType) (x : type.Elem) : type.equal x x = !type.isNaN x := by
  cases type with
  | f32 => exact Binary32.equal_self x
  | f64 => exact Binary64.equal_self x
  | bool | u8 | i8 | i32 | i64 => exact beq_self_eq_true x

end DatumType

namespace StridedArray
variable {α : Type}

/-- Arrays with the same shape and values are equal if every value is equal to itself. -/
theorem equal_eq_all {same : α → α → Bool} {a b : StridedArray α} (shape : a.shape = b.shape)
    (values : a.values = b.values) : a.equal same b = b.values.all fun x => same x x := by
  simp only [equal, shape, values, beq_self_eq_true, Bool.true_and]
  generalize b.values = xs
  induction xs with
  | nil => rfl
  | cons x xs ih => rw [List.zip_cons_cons, List.all_cons, List.all_cons, ih]

end StridedArray

namespace Content

theorem Same.equal_iff {c d : Content} (same : c.Same d) :
    c.equal d = true ↔ ∀ x ∈ d.values, d.type.isNaN x = false := by
  obtain ⟨type, a⟩ := c
  obtain ⟨type', b⟩ := d
  obtain ⟨shape, elements⟩ := same
  obtain ⟨rfl, values⟩ := Sigma.mk.inj elements
  have arrays : Content.equal ⟨type, a⟩ ⟨type, b⟩ = a.equal type.equal b := dif_pos rfl
  rw [arrays, StridedArray.equal_eq_all shape (eq_of_heq values)]
  simp only [List.all_eq_true, DatumType.equal_self, Bool.not_eq_true']
  rfl

end Content
end NodeLowering
