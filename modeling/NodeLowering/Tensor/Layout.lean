/-! How the elements of an n-dimensional array lie in a flat buffer. An axis has a stride and may
run backwards; `offsets` lists the buffer positions in logical order, the last index fastest. -/
namespace NodeLowering.Layout

structure Axis where
  extent : Nat
  /-- Distance in the buffer between neighbours along the axis. -/
  stride : Nat
  reversed : Bool
  deriving DecidableEq

/-- Position of index `i` relative to the first buffer element of the axis. -/
def Axis.offset (axis : Axis) (i : Nat) : Nat :=
  (if axis.reversed then axis.extent - 1 - i else i) * axis.stride

/-- Number of elements of a shape: one for no dimensions. -/
def volume (shape : List Nat) : Nat := shape.foldr (· * ·) 1

/-- Product of the dimensions that are not zero. -/
def positiveVolume (shape : List Nat) : Nat := volume (shape.filter (· != 0))

/-- Buffer positions in logical order. An axis is run through only if the later ones hold
elements. -/
def offsets : List Axis → List Nat
  | [] => [0]
  | axis :: rest =>
      if axis.extent = 0 then []
      else
        let inner := offsets rest
        if inner.isEmpty then []
        else (List.range axis.extent).flatMap fun i => inner.map (axis.offset i + ·)

/-- Neighbours along the last axis are neighbours in the buffer. -/
def rowMajor : List Nat → List Axis
  | [] => []
  | extent :: rest => ⟨extent, volume rest, false⟩ :: rowMajor rest

/-- Axes whose first one has the given stride and whose later strides grow by the extents. -/
def growing (stride : Nat) : List Nat → List Axis
  | [] => []
  | extent :: rest => ⟨extent, stride, false⟩ :: growing (stride * extent) rest

/-- Neighbours along the first axis are neighbours in the buffer. -/
def columnMajor (shape : List Nat) : List Axis := growing 1 shape

/-- Runs axis `k` the other way. -/
def reverse (k : Nat) (axes : List Axis) : List Axis :=
  axes.modify k fun axis => { axis with reversed := !axis.reversed }

/-- The largest position that the axes can reach when all of them hold elements. -/
def reach : List Axis → Nat
  | [] => 0
  | axis :: rest => (axis.extent - 1) * axis.stride + reach rest

@[simp] theorem volume_nil : volume [] = 1 := rfl

@[simp] theorem volume_cons (extent : Nat) (rest : List Nat) :
    volume (extent :: rest) = extent * volume rest := rfl

theorem offsets_cons (axis : Axis) (rest : List Axis) : offsets (axis :: rest) =
    (List.range axis.extent).flatMap fun i => (offsets rest).map (axis.offset i + ·) := by
  rw [offsets]
  split
  · next none => simp [none]
  · simp only [List.isEmpty_iff]
    split
    · next none => simp [none]
    · rfl

theorem length_offsets (axes : List Axis) :
    (offsets axes).length = volume (axes.map (·.extent)) := by
  induction axes with
  | nil => rfl
  | cons axis rest ih =>
    rw [offsets_cons, List.length_flatMap]
    simp only [List.length_map, ih, List.map_const', List.length_range, List.sum_replicate_nat,
      List.map_cons, volume_cons]

theorem offset_le (axis : Axis) {i : Nat} (h : i < axis.extent) :
    axis.offset i ≤ (axis.extent - 1) * axis.stride := by
  rw [Axis.offset]
  apply Nat.mul_le_mul_right
  split <;> omega

theorem offsets_le {axes : List Axis} {o : Nat} (h : o ∈ offsets axes) : o ≤ reach axes := by
  induction axes generalizing o with
  | nil => simp_all [offsets]
  | cons axis rest ih =>
    simp only [offsets_cons, List.mem_flatMap, List.mem_range, List.mem_map] at h
    obtain ⟨i, small, p, inner, rfl⟩ := h
    have first := offset_le axis small
    have later := ih inner
    simp only [reach]
    omega

/-- Positions exist only where every axis holds elements. -/
theorem volume_pos_of_mem {axes : List Axis} {o : Nat} (h : o ∈ offsets axes) :
    0 < volume (axes.map (·.extent)) := by
  rw [← length_offsets]
  exact List.length_pos_of_mem h

@[simp] theorem extents_rowMajor (shape : List Nat) :
    (rowMajor shape).map (·.extent) = shape := by
  induction shape with
  | nil => rfl
  | cons extent rest ih => simp [rowMajor, ih]

@[simp] theorem extents_growing (stride : Nat) (shape : List Nat) :
    (growing stride shape).map (·.extent) = shape := by
  induction shape generalizing stride with
  | nil => rfl
  | cons extent rest ih => simp [growing, ih]

@[simp] theorem extents_columnMajor (shape : List Nat) :
    (columnMajor shape).map (·.extent) = shape := extents_growing 1 shape

@[simp] theorem extents_reverse (k : Nat) (axes : List Axis) :
    (reverse k axes).map (·.extent) = axes.map (·.extent) := by
  induction axes generalizing k with
  | nil => cases k <;> rfl
  | cons axis rest ih => cases k <;> simp_all [reverse]

theorem reach_reverse (k : Nat) (axes : List Axis) : reach (reverse k axes) = reach axes := by
  induction axes generalizing k with
  | nil => cases k <;> rfl
  | cons axis rest ih => cases k <;> simp_all [reverse, reach]

theorem reach_rowMajor {shape : List Nat} (positive : 0 < volume shape) :
    reach (rowMajor shape) + 1 = volume shape := by
  induction shape with
  | nil => rfl
  | cons extent rest ih =>
    have later : 0 < volume rest := Nat.pos_of_mul_pos_left positive
    have first : 0 < extent := Nat.pos_of_mul_pos_right positive
    have step := ih later
    simp only [rowMajor, reach, volume_cons]
    obtain ⟨n, rfl⟩ : ∃ n, extent = n + 1 := ⟨extent - 1, by omega⟩
    rw [Nat.add_mul]
    simp only [Nat.add_sub_cancel]
    omega

theorem reach_growing {stride : Nat} {shape : List Nat} (positive : 0 < volume shape) :
    reach (growing stride shape) + stride = stride * volume shape := by
  induction shape generalizing stride with
  | nil => simp [growing, reach]
  | cons extent rest ih =>
    have later : 0 < volume rest := Nat.pos_of_mul_pos_left positive
    have first : 0 < extent := Nat.pos_of_mul_pos_right positive
    have step := @ih (stride * extent) later
    simp only [growing, reach, volume_cons]
    obtain ⟨n, rfl⟩ : ∃ n, extent = n + 1 := ⟨extent - 1, by omega⟩
    rw [← Nat.mul_assoc, ← step, Nat.mul_add]
    simp only [Nat.add_sub_cancel, Nat.mul_comm n]
    omega

/-- The axes reach no further than a buffer of `size` elements, unless they hold no element. -/
def Within (axes : List Axis) (size : Nat) : Prop :=
  0 < volume (axes.map (·.extent)) → reach axes < size

theorem Within.offset_lt {axes : List Axis} {size o : Nat} (within : Within axes size)
    (h : o ∈ offsets axes) : o < size :=
  Nat.lt_of_le_of_lt (offsets_le h) (within (volume_pos_of_mem h))

theorem rowMajor_within (shape : List Nat) : Within (rowMajor shape) (volume shape) := by
  intro positive
  rw [extents_rowMajor] at positive
  have := reach_rowMajor positive
  omega

theorem columnMajor_within (shape : List Nat) : Within (columnMajor shape) (volume shape) := by
  intro positive
  rw [extents_columnMajor] at positive
  have : reach (columnMajor shape) + 1 = 1 * volume shape := reach_growing positive
  omega

theorem Within.reverse {axes : List Axis} {size : Nat} (within : Within axes size) (k : Nat) :
    Within (reverse k axes) size := by
  rw [Within, extents_reverse, reach_reverse]
  exact within

end NodeLowering.Layout
