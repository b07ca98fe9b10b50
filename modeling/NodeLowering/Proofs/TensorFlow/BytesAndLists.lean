import NodeLowering.Proofs.TensorFlow.Outcome

/-! The two ways in which a message gives elements: as bytes and by the list of their type. What is
read is the same, except that a single element of a list stands for as many as the dimensions take,
while bytes have to hold them all. -/
namespace NodeLowering.TensorFlow.TensorProto
open Layout StridedArray

variable {type : DatumType} {values : List type.Elem} {packed listing : TensorProto}

/-- The message gives the values as bytes. What its lists hold does not matter. -/
structure Packs (tensor : TensorProto) (type : DatumType) (values : List type.Elem) : Prop where
  described : tensor.Describes type
  content : tensor.content = values.flatMap type.littleEndian

/-- The message gives the values by the list of their type. What other lists hold is no matter. -/
structure Lists (tensor : TensorProto) (type : DatumType) (values : List type.Elem) : Prop where
  described : tensor.Describes type
  content : tensor.content = []
  elements : tensor.Elements type values

/-- The value is every element of the content, as long as there can be so many. -/
structure Repeats (tensor : TensorProto) (type : DatumType) (x : type.Elem) : Prop where
  filled : positiveVolume tensor.dims ≤ maxSize ∧ volume tensor.dims * type.width ≤ maxSize →
    ∃ array, tensor.toContent = .ok ⟨type, array⟩ ∧ array.shape = tensor.dims ∧
      array.values = List.replicate (volume tensor.dims) x
  aborted : ¬ (positiveVolume tensor.dims ≤ maxSize ∧ volume tensor.dims * type.width ≤ maxSize) →
    tensor.toContent = .error .aborted

/-- The integers differ by a multiple of 256. -/
def Congruent (x y : Int32) : Prop := ∃ k : Int, y.toInt = x.toInt + 256 * k

/-! Small integers -/

theorem Congruent.narrows {x y : Int32} (congruent : Congruent x y) {n : Int}
    (narrows : Narrows x n) : Narrows y n := by
  obtain ⟨k, difference⟩ := congruent
  obtain ⟨l, given⟩ := narrows
  exact ⟨l + k, by omega⟩

theorem narrows_congruent {α : Type} {number : α → Int} {xs ys : List Int32} {values : List α}
    (congruent : List.Forall₂ Congruent xs ys)
    (narrow : List.Forall₂ (fun x value => Narrows x (number value)) xs values) :
    List.Forall₂ (fun y value => Narrows y (number value)) ys values := by
  induction congruent generalizing values with
  | nil =>
    cases narrow
    exact .nil
  | cons first _ ih =>
    cases narrow with
    | cons own rest => exact .cons (first.narrows own) (ih rest)

theorem Elements.of_congruent (elements : listing.Elements type values)
    (small : type = .u8 ∨ type = .i8) {ints : List Int32}
    (congruent : List.Forall₂ Congruent listing.ints ints) :
    ({ listing with ints } : TensorProto).Elements type values := by
  rcases small with rfl | rfl
  · cases elements with
    | unsigned narrow => exact .unsigned (narrows_congruent congruent narrow)
  · cases elements with
    | signed narrow => exact .signed (narrows_congruent congruent narrow)

theorem Lists.of_congruent (lists : listing.Lists type values) (small : type = .u8 ∨ type = .i8)
    {ints : List Int32} (congruent : List.Forall₂ Congruent listing.ints ints) :
    ({ listing with ints } : TensorProto).Lists type values where
  described := ⟨lists.described.natural, lists.described.coded⟩
  content := lists.content
  elements := lists.elements.of_congruent small congruent

/-! What is read -/

theorem Packs.toContent_eq (packs : packed.Packs type values) (numeric : type ≠ .bool)
    (given : values ≠ []) :
    packed.toContent = (arrange type packed.dims values).map (Content.mk type) := by
  have bytes : packed.content ≠ [] := by
    apply List.ne_nil_of_length_pos
    rw [packs.content, type.length_flatMap_littleEndian]
    exact Nat.mul_pos (List.length_pos_iff.mpr given) type.width_pos
  exact toContent_packed packs.described bytes numeric packs.content

theorem Lists.toContent_eq (lists : listing.Lists type values) :
    listing.toContent = (arrangeListed type listing.dims values).map (Content.mk type) :=
  toContent_listed lists.described lists.content lists.elements

theorem Lists.repeats {x : type.Elem} (lists : listing.Lists type [x]) :
    listing.Repeats type x := by
  have read := lists.toContent_eq
  rw [arrangeListed] at read
  rcases broadcast_cases type listing.dims x with
    ⟨addressable, fits, array, filled, shape, elements⟩ | ⟨large, overfilled⟩
  · rw [filled] at read
    exact ⟨fun _ => ⟨array, read, shape, elements⟩, fun large => absurd ⟨addressable, fits⟩ large⟩
  · rw [overfilled] at read
    exact ⟨fun fits => absurd fits large, fun _ => read⟩

/-- Several elements of a list are arranged as they are. -/
theorem Packs.toContent_eq_of_several (packs : packed.Packs type values)
    (lists : listing.Lists type values) (numeric : type ≠ .bool) (dims : packed.dims = listing.dims)
    (several : 2 ≤ values.length) : packed.toContent = listing.toContent := by
  have given : values ≠ [] := List.ne_nil_of_length_pos (by omega)
  have notSingle : ∀ x, values ≠ [x] := by
    rintro x rfl
    contradiction
  rw [packs.toContent_eq numeric given, lists.toContent_eq, dims,
    arrangeListed.eq_2 type listing.dims values notSingle]

/-- A single element that is all there is room for is not repeated. -/
theorem fill_one {extents : List Nat} (one : volume extents = 1) (x : type.Elem) :
    StridedArray.fill extents x = .rowMajor extents [x] one.symm := by
  have single : List.replicate (volume extents) x = [x] := by
    rw [one]
    rfl
  simp only [StridedArray.fill, single]

theorem Packs.single {x : type.Elem} (packs : packed.Packs type [x])
    (lists : listing.Lists type [x]) (numeric : type ≠ .bool)
    (dims : packed.dims = listing.dims) :
    (positiveVolume listing.dims ≤ maxSize ∧ volume listing.dims = 1 ∧
      ∃ content, packed.toContent = .ok content ∧ listing.toContent = .ok content) ∨
    (¬ (positiveVolume listing.dims ≤ maxSize ∧ volume listing.dims = 1) ∧
      ∃ reason, packed.toContent = .error (.refused reason)) := by
  have read := packs.toContent_eq numeric (List.cons_ne_nil x [])
  have read' := lists.toContent_eq
  rw [dims] at read
  by_cases fits : positiveVolume listing.dims ≤ maxSize ∧ volume listing.dims = 1
  · obtain ⟨addressable, one⟩ := fits
    have whole : [x].length = volume listing.dims := one.symm
    have narrow : volume listing.dims * type.width ≤ maxSize := by
      rw [one]
      cases type <;> decide
    refine .inl ⟨addressable, one, ⟨type, .rowMajor listing.dims [x] whole⟩, ?_, ?_⟩
    · rw [read, arrange, ofValues_eq_ok addressable whole]
      rfl
    · rw [read', arrangeListed, broadcast, if_neg (by omega), fill_one one]
      rfl
  · rcases arrange_cases type listing.dims [x] with ⟨addressable, one, _⟩ | ⟨_, reason, refused⟩
    · exact absurd ⟨addressable, one⟩ fits
    · rw [refused] at read
      exact .inr ⟨fits, reason, read⟩

/-- Several elements are read alike from bytes and from a list, or refused for the same reason. A
single one can be read from bytes exactly if it is all that the dimensions take, and then it can be
read from a list with the same outcome; a list repeats it otherwise. Of small integers a list may
hold any others that differ by multiples of 256. -/
theorem toContent_bytes_or_list (packs : packed.Packs type values)
    (lists : listing.Lists type values) (numeric : type ≠ .bool)
    (sizes : packed.sizes = listing.sizes) :
    (2 ≤ values.length → packed.toContent = listing.toContent) ∧
    (∀ x, values = [x] →
      ((∃ content, packed.toContent = .ok content) ↔
        positiveVolume listing.dims ≤ maxSize ∧ volume listing.dims = 1) ∧
      (∀ content, packed.toContent = .ok content → listing.toContent = .ok content) ∧
      packed.toContent ≠ .error .aborted ∧
      listing.Repeats type x) ∧
    (type = .u8 ∨ type = .i8 → ∀ ints, List.Forall₂ Congruent listing.ints ints →
      ({ listing with ints } : TensorProto).toContent = listing.toContent) := by
  have dims : packed.dims = listing.dims := by rw [TensorProto.dims, TensorProto.dims, sizes]
  refine ⟨packs.toContent_eq_of_several lists numeric dims, ?_, ?_⟩
  · rintro x rfl
    rcases packs.single lists numeric dims with
      ⟨addressable, one, content, read, read'⟩ | ⟨unfit, reason, refused⟩
    · refine ⟨⟨fun _ => ⟨addressable, one⟩, fun _ => ⟨content, read⟩⟩, ?_, ?_, lists.repeats⟩
      · intro other read''
        exact read'.trans (read.symm.trans read'')
      · intro aborted
        cases read.symm.trans aborted
    · refine ⟨⟨?_, fun fits => absurd fits unfit⟩, ?_, ?_, lists.repeats⟩
      · rintro ⟨content, read⟩
        cases refused.symm.trans read
      · intro content read
        cases refused.symm.trans read
      · intro aborted
        cases refused.symm.trans aborted
  · intro small ints congruent
    rw [lists.toContent_eq, (lists.of_congruent small congruent).toContent_eq]
    rfl

/-- Two rows of one column: four bytes are not enough for them, while a list fills both with the
same NaN. -/
theorem toContent_bytes_or_list_nan :
    let shape : TensorShape := ⟨[⟨2, "rows"⟩, ⟨1, "columns"⟩], false⟩
    let nan : Binary32 := ⟨0x7fc00001⟩
    let packed : TensorProto :=
      { dtype := 1, shape := some shape, content := [1, 0, 0xc0, 0x7f], floats := [⟨0⟩] }
    let listing : TensorProto :=
      { dtype := 1, shape := some shape, floats := [nan], ints := [3] }
    packed.Packs .f32 [nan] ∧ listing.Lists .f32 [nan] ∧ packed.sizes = listing.sizes ∧
      (¬ ∃ content, packed.toContent = .ok content) ∧
      ∃ array, listing.toContent = .ok ⟨.f32, array⟩ ∧ array.values = [nan, nan] := by
  intro shape nan packed listing
  have natural : ∀ size ∈ listing.sizes, 0 ≤ size :=
    List.forall_mem_cons.mpr ⟨by decide, List.forall_mem_singleton.mpr (by decide)⟩
  have packs : packed.Packs .f32 [nan] := ⟨⟨natural, .float⟩, by decide⟩
  have lists : listing.Lists .f32 [nan] := ⟨⟨natural, .float⟩, rfl, .floats⟩
  obtain ⟨read, _, _, repeats⟩ :=
    (toContent_bytes_or_list packs lists (by decide) rfl).2.1 nan rfl
  obtain ⟨array, filled, _, elements⟩ := repeats.filled (by decide)
  exact ⟨packs, lists, rfl, fun decoded => absurd (read.mp decoded) (by decide), array, filled,
    elements⟩

end NodeLowering.TensorFlow.TensorProto
