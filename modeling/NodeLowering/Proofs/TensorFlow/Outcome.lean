import NodeLowering.Proofs.Tensor.RowMajor
import NodeLowering.Proofs.TensorFlow.Elements
import NodeLowering.Proofs.TensorFlow.LittleEndian

/-! How reading a tensor message ends. Whether there is a content, and which one, depends on the
dimensions, the type and the elements given for it; nothing else of the message matters. The one way
to run out of memory is a single listed element that is to fill too large an array. -/
namespace NodeLowering.TensorFlow.TensorProto
open Layout StridedArray

variable {tensor : TensorProto} {type : DatumType}

/-- The sizes of the dimensions. There are none without a shape. -/
def sizes (tensor : TensorProto) : List Int64 := (tensor.shape.elim [] (·.dims)).map (·.size)

/-- The dimensions, if no size is negative. -/
def dims (tensor : TensorProto) : List Nat := tensor.sizes.map (·.toNatClampNeg)

/-- No size is negative, and the code is that of the type. -/
structure Describes (tensor : TensorProto) (type : DatumType) : Prop where
  natural : ∀ size ∈ tensor.sizes, 0 ≤ size
  coded : Coded tensor.dtype type

/-- The elements given make up an array of the dimensions: bytes if there are any, of which truth
values cannot be made, and the list of the type otherwise. A single listed element is repeated. -/
inductive Fills (tensor : TensorProto) (type : DatumType) : Prop
  | bytes (given : tensor.content ≠ []) (numeric : type ≠ .bool)
      (whole : type.width ∣ tensor.content.length)
      (addressable : positiveVolume tensor.dims ≤ maxSize)
      (fits : volume tensor.dims = tensor.content.length / type.width)
  | listed (given : tensor.content = []) (values : List type.Elem)
      (elements : tensor.Elements type values) (several : values.length ≠ 1)
      (addressable : positiveVolume tensor.dims ≤ maxSize)
      (fits : volume tensor.dims = values.length)
  | repeated (given : tensor.content = []) (x : type.Elem)
      (elements : tensor.Elements type [x])
      (addressable : positiveVolume tensor.dims ≤ maxSize)
      (fits : volume tensor.dims * type.width ≤ maxSize)

/-- A single listed element is to fill more than there can be. -/
structure Overfills (tensor : TensorProto) (type : DatumType) : Prop where
  given : tensor.content = []
  single : ∃ x, tensor.Elements type [x]
  large : ¬ (positiveVolume tensor.dims ≤ maxSize ∧ volume tensor.dims * type.width ≤ maxSize)

/-- The content has the type and the dimensions of the message and the elements given. -/
structure Holds (tensor : TensorProto) (content : Content) : Prop where
  described : tensor.Describes content.type
  shape : content.shape = tensor.dims
  bytes : tensor.content ≠ [] →
    tensor.content = content.values.flatMap content.type.littleEndian
  listed : tensor.content = [] → ∃ values, tensor.Elements content.type values ∧
    Spread (volume tensor.dims) values content.values

/-- The messages differ at most in the names of the dimensions, in whether the rank is said to be
unknown, in the version and in elements that their type does not ask for: those of other types, and
all that are listed where there are bytes. -/
structure Agrees (tensor other : TensorProto) : Prop where
  dtype : other.dtype = tensor.dtype
  sizes : other.sizes = tensor.sizes
  content : other.content = tensor.content
  elements : tensor.content = [] → ∀ type values, Coded tensor.dtype type →
    (other.Elements type values ↔ tensor.Elements type values)

theorem Describes.unique {other : DatumType} (first : tensor.Describes type)
    (second : tensor.Describes other) : type = other :=
  first.coded.unique second.coded

/-! The dimensions -/

theorem shape_dims (tensor : TensorProto) :
    (tensor.shape.getD {}).dims.map (·.size) = tensor.sizes := by
  cases tensor with
  | mk _ shape => cases shape <;> rfl

theorem extents_eq (tensor : TensorProto) : (tensor.shape.getD {}).extents =
    if tensor.sizes.any (· < 0) then .error .negativeDim else .ok tensor.dims := by
  rw [TensorShape.extents, dims, ← shape_dims, List.any_map, List.map_map]
  rfl

theorem extents_natural (natural : ∀ size ∈ tensor.sizes, 0 ≤ size) :
    (tensor.shape.getD {}).extents = .ok tensor.dims := by
  have none : tensor.sizes.any (· < 0) = false := by
    rw [List.any_eq_false]
    intro size member
    have := Int64.le_iff_toInt_le.mp (natural size member)
    simp only [decide_eq_true_eq, Int64.lt_iff_toInt_lt]
    omega
  rw [extents_eq, none]
  rfl

/-! Arrays of elements -/

theorem arrange_cases (type : DatumType) (extents : List Nat) (values : List type.Elem) :
    (positiveVolume extents ≤ maxSize ∧ volume extents = values.length ∧
      ∃ array, arrange type extents values = .ok array ∧ array.shape = extents ∧
        array.values = values) ∨
    (¬ (positiveVolume extents ≤ maxSize ∧ volume extents = values.length) ∧
      ∃ reason, arrange type extents values = .error (.refused reason)) := by
  by_cases addressable : positiveVolume extents ≤ maxSize
  · by_cases fits : volume extents = values.length
    · refine .inl ⟨addressable, fits, .rowMajor extents values fits.symm, ?_,
        shape_rowMajor _ _ _, values_rowMajor _ _ _⟩
      rw [arrange, ofValues_eq_ok addressable fits.symm]
      rfl
    · refine .inr ⟨fun both => fits both.2, ?_⟩
      rw [arrange, ofValues, if_neg (by omega), dif_neg (Ne.symm fits)]
      split
      · exact ⟨_, rfl⟩
      · exact ⟨_, rfl⟩
  · refine .inr ⟨fun both => addressable both.1, ?_⟩
    rw [arrange, ofValues, if_pos (by omega)]
    exact ⟨_, rfl⟩

theorem broadcast_cases (type : DatumType) (extents : List Nat) (x : type.Elem) :
    (positiveVolume extents ≤ maxSize ∧ volume extents * type.width ≤ maxSize ∧
      ∃ array, broadcast type extents x = .ok array ∧ array.shape = extents ∧
        array.values = List.replicate (volume extents) x) ∨
    (¬ (positiveVolume extents ≤ maxSize ∧ volume extents * type.width ≤ maxSize) ∧
      broadcast type extents x = .error .aborted) := by
  by_cases fits : positiveVolume extents ≤ maxSize ∧ volume extents * type.width ≤ maxSize
  · refine .inl ⟨fits.1, fits.2, .fill extents x, ?_, shape_rowMajor _ _ _,
      values_rowMajor _ _ _⟩
    rw [broadcast, if_neg (by omega)]
  · refine .inr ⟨fits, ?_⟩
    rw [broadcast, if_pos (by omega)]

/-! Messages -/

theorem toContent_listed (describes : tensor.Describes type) (given : tensor.content = [])
    {values : List type.Elem} (elements : tensor.Elements type values) :
    tensor.toContent = (arrangeListed type tensor.dims values).map (Content.mk type) := by
  obtain ⟨dtype, coded, has⟩ := coded_iff.mp describes.coded
  simp only [toContent, extents_natural describes.natural, coded, has, given, List.isEmpty_nil,
    elements_iff.mp elements]
  rfl

theorem toContent_bytes (describes : tensor.Describes type) (given : tensor.content ≠ [])
    (numeric : type ≠ .bool) : tensor.toContent = (do
      let values ← (unpack type tensor.content).mapError .refused
      return ⟨type, ← arrange type tensor.dims values⟩) := by
  obtain ⟨dtype, coded, has⟩ := coded_iff.mp describes.coded
  have some : tensor.content.isEmpty = false := List.isEmpty_eq_false_iff.mpr given
  have kept : (Option.some type).filter (· ≠ .bool) = Option.some type := by simp [numeric]
  simp only [toContent, extents_natural describes.natural, coded, has, some, kept]
  rfl

/-- Bytes that are made of values are arranged as those values. -/
theorem toContent_packed (describes : tensor.Describes type) (given : tensor.content ≠ [])
    (numeric : type ≠ .bool) {values : List type.Elem}
    (packed : tensor.content = values.flatMap type.littleEndian) :
    tensor.toContent = (arrange type tensor.dims values).map (Content.mk type) := by
  rw [toContent_bytes describes given numeric, (unpack_eq_ok_iff numeric).mpr packed]
  rfl

theorem toContent_truth (describes : tensor.Describes .bool) (given : tensor.content ≠ []) :
    ∃ reason, tensor.toContent = .error (.refused reason) := by
  obtain ⟨dtype, coded, has⟩ := coded_iff.mp describes.coded
  have some : tensor.content.isEmpty = false := List.isEmpty_eq_false_iff.mpr given
  simp only [toContent, extents_natural describes.natural, coded, has, some]
  exact ⟨_, rfl⟩

theorem toContent_undescribed (undescribed : ¬ ∃ type, tensor.Describes type) :
    ∃ reason, tensor.toContent = .error (.refused reason) := by
  by_cases natural : ∀ size ∈ tensor.sizes, 0 ≤ size
  · have extents := extents_natural natural
    cases coded : DataType.ofCode? tensor.dtype with
    | none =>
      simp only [toContent, extents, coded]
      exact ⟨_, rfl⟩
    | some dtype =>
      have foreign : dtype.datumType? = none := by
        cases has : dtype.datumType? with
        | none => rfl
        | some type =>
          exact absurd ⟨type, natural, coded_iff.mpr ⟨dtype, coded, has⟩⟩ undescribed
      simp only [toContent, extents, coded, foreign]
      cases tensor.content.isEmpty with
      | true => exact ⟨_, rfl⟩
      | false => exact ⟨_, rfl⟩
  · have negative : tensor.sizes.any (· < 0) = true := by
      rw [List.any_eq_true]
      simp only [not_forall, Int64.not_le] at natural
      obtain ⟨size, member, below⟩ := natural
      exact ⟨size, member, decide_eq_true below⟩
    simp only [toContent, extents_eq, negative, if_true]
    exact ⟨_, rfl⟩

/-! The three ends of a message whose dimensions and type are in order -/

inductive Ends (tensor : TensorProto) (type : DatumType) : Prop
  | read (fills : tensor.Fills type) (content : Content) (result : tensor.toContent = .ok content)
      (holds : tensor.Holds content)
  | aborted (overfills : tensor.Overfills type) (result : tensor.toContent = .error .aborted)
  | refused (unfilled : ¬ tensor.Fills type) (bounded : ¬ tensor.Overfills type)
      (reason : ContentError) (result : tensor.toContent = .error (.refused reason))

theorem ends_repeated (describes : tensor.Describes type) (given : tensor.content = [])
    {x : type.Elem} (elements : tensor.Elements type [x]) : tensor.Ends type := by
  have made := toContent_listed describes given elements
  rw [arrangeListed] at made
  rcases broadcast_cases type tensor.dims x with
    ⟨addressable, fits, array, filled, shape, values⟩ | ⟨large, overfilled⟩
  · rw [filled] at made
    refine .read (.repeated given x elements addressable fits) _ made ⟨describes, shape,
      fun bytes => absurd given bytes, fun _ => ⟨[x], elements, ?_⟩⟩
    rw [Content.values, values]
    exact .single x
  · rw [overfilled] at made
    exact .aborted ⟨given, ⟨x, elements⟩, large⟩ made

theorem ends_listed (describes : tensor.Describes type) (given : tensor.content = [])
    {values : List type.Elem} (elements : tensor.Elements type values)
    (several : values.length ≠ 1) : tensor.Ends type := by
  have made := toContent_listed describes given elements
  rw [arrangeListed.eq_2 type tensor.dims values fun x only => several (congrArg List.length only)]
    at made
  rcases arrange_cases type tensor.dims values with
    ⟨addressable, fits, array, arranged, shape, same⟩ | ⟨unfit, reason, refused⟩
  · rw [arranged] at made
    refine .read (.listed given values elements several addressable fits) _ made ⟨describes, shape,
      fun bytes => absurd given bytes, fun _ => ⟨values, elements, ?_⟩⟩
    rw [Content.values, same]
    exact .several several
  · rw [refused] at made
    have notSingle : ∀ x, ¬ tensor.Elements type [x] := by
      intro x single
      exact several (congrArg List.length (elements.unique single))
    refine .refused ?_ ?_ reason made
    · intro fills
      cases fills with
      | bytes bytes => exact bytes given
      | listed _ others elements' _ addressable fits =>
        obtain rfl := elements.unique elements'
        exact unfit ⟨addressable, fits⟩
      | repeated _ x single => exact notSingle x single
    · rintro ⟨_, ⟨x, single⟩, _⟩
      exact notSingle x single

theorem ends_truth (describes : tensor.Describes .bool) (given : tensor.content ≠ []) :
    tensor.Ends .bool := by
  obtain ⟨reason, refused⟩ := toContent_truth describes given
  refine .refused ?_ (fun excess => given excess.given) reason refused
  intro fills
  cases fills with
  | bytes _ numeric => exact numeric rfl
  | listed none | repeated none => exact given none

theorem ends_bytes (describes : tensor.Describes type) (given : tensor.content ≠ [])
    (numeric : type ≠ .bool) : tensor.Ends type := by
  have made := toContent_bytes describes given numeric
  cases read : unpack type tensor.content with
  | error reason =>
    rw [read] at made
    refine .refused ?_ (fun excess => given excess.given) reason made
    intro fills
    cases fills with
    | bytes _ _ whole =>
      obtain ⟨values, some⟩ := (unpack_isOk_iff numeric).mpr whole
      exact absurd (some.symm.trans read) (by simp)
    | listed none | repeated none => exact given none
  | ok values =>
    have whole := (unpack_isOk_iff numeric).mp ⟨values, read⟩
    have packed := (unpack_eq_ok_iff numeric).mp read
    have count : tensor.content.length / type.width = values.length := by
      rw [packed, type.length_flatMap_littleEndian, Nat.mul_div_cancel _ type.width_pos]
    replace made := toContent_packed describes given numeric packed
    rcases arrange_cases type tensor.dims values with
      ⟨addressable, fits, array, arranged, shape, elements⟩ | ⟨unfit, reason, refused⟩
    · rw [arranged] at made
      refine .read (.bytes given numeric whole addressable (fits.trans count.symm)) _ made
        ⟨describes, shape, fun _ => ?_, fun none => absurd none given⟩
      rw [packed]
      exact congrArg (List.flatMap type.littleEndian) elements.symm
    · rw [refused] at made
      refine .refused ?_ (fun excess => given excess.given) reason made
      intro fills
      cases fills with
      | bytes _ _ _ addressable fits => exact unfit ⟨addressable, fits.trans count⟩
      | listed none | repeated none => exact given none

theorem ends (describes : tensor.Describes type) : tensor.Ends type := by
  by_cases given : tensor.content = []
  · have elements := tensor.elements_listed type
    by_cases single : (tensor.listed type).length = 1
    · obtain ⟨x, only⟩ := List.length_eq_one_iff.mp single
      rw [only] at elements
      exact ends_repeated describes given elements
    · exact ends_listed describes given elements single
  · by_cases truth : type = .bool
    · subst truth
      exact ends_truth describes given
    · exact ends_bytes describes given truth

theorem Agrees.listed_eq {other : TensorProto} (agrees : tensor.Agrees other)
    (given : tensor.content = []) (coded : Coded tensor.dtype type) :
    other.listed type = tensor.listed type :=
  elements_iff.mp ((agrees.elements given type _ coded).mpr (tensor.elements_listed type))

theorem Agrees.toContent_eq {other : TensorProto} (agrees : tensor.Agrees other) :
    other.toContent = tensor.toContent := by
  simp only [toContent, extents_eq, dims, agrees.dtype, agrees.sizes, agrees.content]
  cases read : DataType.ofCode? tensor.dtype with
  | none => rfl
  | some dtype =>
    by_cases given : tensor.content = []
    · cases has : dtype.datumType? with
      | none => simp only [has]
      | some type =>
        simp only [has, agrees.listed_eq given (coded_iff.mpr ⟨dtype, read, has⟩)]
    · -- The lists are not looked at where there are bytes.
      have some : tensor.content.isEmpty = false := List.isEmpty_eq_false_iff.mpr given
      simp only [some]
      rfl

theorem Fills.not_overfills (fills : tensor.Fills type) : ¬ tensor.Overfills type := by
  rintro ⟨none, ⟨x, single⟩, large⟩
  cases fills with
  | bytes given => exact given none
  | listed _ values elements several =>
    exact several (congrArg List.length (elements.unique single))
  | repeated _ _ _ addressable fits => exact large ⟨addressable, fits⟩

theorem toContent_isOk_iff :
    (∃ content, tensor.toContent = .ok content) ↔
      ∃ type, tensor.Describes type ∧ tensor.Fills type := by
  constructor
  · rintro ⟨content, ok⟩
    by_cases described : ∃ type, tensor.Describes type
    · obtain ⟨type, describes⟩ := described
      cases ends describes with
      | read fills => exact ⟨type, describes, fills⟩
      | aborted _ result | refused _ _ _ result => cases ok.symm.trans result
    · obtain ⟨reason, refused⟩ := toContent_undescribed described
      cases ok.symm.trans refused
  · rintro ⟨type, describes, fills⟩
    cases ends describes with
    | read _ content result => exact ⟨content, result⟩
    | aborted excess => exact absurd excess fills.not_overfills
    | refused unfilled => exact absurd fills unfilled

theorem toContent_eq_aborted_iff :
    tensor.toContent = .error .aborted ↔
      ∃ type, tensor.Describes type ∧ tensor.Overfills type := by
  constructor
  · intro aborted
    by_cases described : ∃ type, tensor.Describes type
    · obtain ⟨type, describes⟩ := described
      cases ends describes with
      | aborted excess => exact ⟨type, describes, excess⟩
      | read _ _ result | refused _ _ _ result => cases aborted.symm.trans result
    · obtain ⟨reason, refused⟩ := toContent_undescribed described
      cases aborted.symm.trans refused
  · rintro ⟨type, describes, excess⟩
    cases ends describes with
    | read fills => exact absurd excess fills.not_overfills
    | aborted _ result => exact result
    | refused _ bounded => exact absurd excess bounded

theorem holds_of_toContent {content : Content} (ok : tensor.toContent = .ok content) :
    tensor.Holds content := by
  obtain ⟨type, describes, _⟩ := toContent_isOk_iff.mp ⟨content, ok⟩
  cases ends describes with
  | read _ _ result holds =>
    cases ok.symm.trans result
    exact holds
  | aborted _ result | refused _ _ _ result => cases ok.symm.trans result

/-- A message has a content exactly if its dimensions and its type are in order and its elements
fill the dimensions, and then the content holds just these elements. Reading runs out of memory
exactly if a single listed element is to fill more than there can be; otherwise there is a reason
for there being no content. Nothing else of the message matters, lists that its type does not ask
for included. -/
theorem toContent_outcome (tensor : TensorProto) :
    ((∃ content, tensor.toContent = .ok content) ↔
      ∃ type, tensor.Describes type ∧ tensor.Fills type) ∧
    (tensor.toContent = .error .aborted ↔
      ∃ type, tensor.Describes type ∧ tensor.Overfills type) ∧
    (∀ content, tensor.toContent = .ok content → tensor.Holds content) ∧
    ∀ other, tensor.Agrees other → other.toContent = tensor.toContent :=
  ⟨toContent_isOk_iff, toContent_eq_aborted_iff, fun _ => holds_of_toContent,
    fun _ agrees => agrees.toContent_eq⟩

/-- One number for 2^60 places: they could be indexed, but the numbers would not fit into memory. As
bytes, the same number is merely too short, whether it is listed as well or not. -/
theorem toContent_outcome_large :
    let shape : TensorShape := ⟨[⟨1152921504606846976, "n"⟩], true⟩
    let listed : TensorProto := { dtype := 9, shape := some shape, int64s := [7] }
    let bytes : TensorProto := { listed with content := [7, 0, 0, 0, 0, 0, 0, 0] }
    listed.toContent = .error .aborted ∧ (¬ ∃ content, bytes.toContent = .ok content) ∧
      ({ bytes with int64s := [] } : TensorProto).toContent = bytes.toContent := by
  intro shape listed bytes
  have describes : ∀ tensor : TensorProto, tensor.dtype = 9 → tensor.shape = some shape →
      tensor.Describes .i64 := by
    intro tensor code dims
    constructor
    · rw [sizes, dims]
      intro size member
      obtain rfl := List.mem_singleton.mp member
      decide
    · rw [code]
      exact .int64
  refine ⟨?_, ?_, ?_⟩
  · have overfills : listed.Overfills .i64 := ⟨rfl, ⟨7, .int64s⟩, by decide⟩
    exact (toContent_outcome listed).2.1.mpr ⟨.i64, describes listed rfl rfl, overfills⟩
  · intro read
    obtain ⟨type, described, fills⟩ := (toContent_outcome bytes).1.mp read
    obtain rfl := described.unique (describes bytes rfl rfl)
    cases fills with
    | bytes _ _ _ _ fits => exact absurd fits (by decide)
    | listed none | repeated none => exact absurd none (by decide)
  · exact (toContent_outcome bytes).2.2.2 _ ⟨rfl, rfl, rfl, fun none => absurd none (by decide)⟩

end NodeLowering.TensorFlow.TensorProto
