import NodeLowering.Tensor.Strided

/-! Row-major arrays: what lies in the buffer is what a reader of the array sees. -/
namespace NodeLowering

namespace Layout

theorem range_mul (m n : Nat) :
    List.range (m * n) = (List.range m).flatMap fun i => (List.range n).map (i * n + ·) := by
  induction m with
  | zero => simp
  | succ m ih =>
    rw [Nat.succ_mul, List.range_add, ih, List.range_succ, List.flatMap_append,
      List.flatMap_singleton]

theorem offsets_rowMajor (shape : List Nat) :
    offsets (rowMajor shape) = List.range (volume shape) := by
  induction shape with
  | nil => rfl
  | cons extent rest ih =>
    rw [rowMajor, offsets_cons, ih, volume_cons, range_mul]
    rfl

theorem positiveVolume_cons (extent : Nat) (rest : List Nat) :
    positiveVolume (extent :: rest) =
      (if extent = 0 then 1 else extent) * positiveVolume rest := by
  by_cases empty : extent = 0
  · simp [positiveVolume, empty]
  · simp [positiveVolume, empty]

theorem positiveVolume_pos (shape : List Nat) : 0 < positiveVolume shape := by
  induction shape with
  | nil => decide
  | cons extent rest ih =>
    rw [positiveVolume_cons]
    split
    · omega
    · exact Nat.mul_pos (by omega) ih

theorem le_positiveVolume {shape : List Nat} {extent : Nat} (member : extent ∈ shape) :
    extent ≤ positiveVolume shape := by
  induction shape with
  | nil => contradiction
  | cons first rest ih =>
    rw [positiveVolume_cons]
    have later := positiveVolume_pos rest
    rcases List.mem_cons.mp member with rfl | member
    · split
      · omega
      · exact Nat.le_mul_of_pos_right _ later
    · have inner := ih member
      split
      · omega
      · exact Nat.le_trans inner (Nat.le_mul_of_pos_left _ (by omega))

end Layout

namespace StridedArray
variable {α : Type}

theorem values_rowMajor (shape : List Nat) (values : List α)
    (fits : values.length = Layout.volume shape) :
    (rowMajor shape values fits).values = values := by
  apply List.ext_getElem
  · simp [size, fits]
  · intro i _ _
    have offset : ∀ inside, (Layout.offsets (Layout.rowMajor shape)).get ⟨i, inside⟩ = i := by
      intro inside
      simp [Layout.offsets_rowMajor]
    simp only [StridedArray.values, rowMajor, List.getElem_pmap, List.getElem_toArray]
    exact getElem_congr_idx (offset _)

/-- No extent is too large for a signed number of 64 bits. -/
theorem Addressable.extent_lt {a : StridedArray α} (addressable : a.Addressable) {extent : Nat}
    (member : extent ∈ a.shape) : extent < 9223372036854775808 := by
  have bound : extent ≤ maxSize := Nat.le_trans (Layout.le_positiveVolume member) addressable
  simp only [maxSize] at bound
  omega

theorem ofValues_eq_ok {shape : List Nat} {values : List α}
    (addressable : Layout.positiveVolume shape ≤ maxSize)
    (fits : values.length = Layout.volume shape) :
    ofValues shape values = .ok (rowMajor shape values fits) := by
  rw [ofValues, if_neg (by omega), dif_pos fits]

end StridedArray
end NodeLowering
