import NodeLowering.Proofs.Tensor.RowMajor
import NodeLowering.Tensor.Basic

/-! What details given one after the other make of a tensor. A shape or a type that is given wins
over those that content shows, whether it comes before the content or after it. Of several contents
the first one shows the shape and the type, and the last one is kept. -/
namespace NodeLowering

namespace Content

/-- The extents as dimensions of a tensor. -/
def dims (content : Content) : List Int64 := content.shape.map Int64.ofNat

/-- The dimensions are the extents, as numbers. -/
theorem toInt_dims {content : Content} (addressable : content.array.Addressable) :
    content.dims.map (·.toInt) = content.shape.map Int.ofNat := by
  rw [dims, List.map_map]
  refine List.map_congr_left fun extent member => ?_
  exact Int64.toInt_ofNat_of_lt (addressable.extent_lt member)

end Content

namespace Tensor

namespace Detail

def shape? : Detail → Option (List Int64)
  | shape dims => some dims
  | dtype _ | content _ | sourceOp _ | destOp _ => none

def dtype? : Detail → Option DatumType
  | dtype type => some type
  | shape _ | content _ | sourceOp _ | destOp _ => none

def content? : Detail → Option Content
  | content given => some given
  | shape _ | dtype _ | sourceOp _ | destOp _ => none

def sourceOp? : Detail → Option String
  | sourceOp op => some op
  | shape _ | dtype _ | content _ | destOp _ => none

def destOp? : Detail → Option String
  | destOp op => some op
  | shape _ | dtype _ | content _ | sourceOp _ => none

end Detail

/-- The tensor with all the details at once. What is known of it before counts for less than what is
given and for more than what contents show. -/
def described (t : Tensor) (details : List Detail) : Tensor where
  name := t.name
  sourceOps := t.sourceOps ++ details.filterMap Detail.sourceOp?
  destOps := t.destOps ++ details.filterMap Detail.destOp?
  shape := (details.filterMap Detail.shape?).getLast?.or
    (t.shape.or ((details.filterMap Detail.content?).head?.map Content.dims))
  dtype := (details.filterMap Detail.dtype?).getLast?.or
    (t.dtype.or ((details.filterMap Detail.content?).head?.map Content.type))
  content := (details.filterMap Detail.content?).getLast?.or t.content

/-- The tensor has the content, and its shape and its type are those of the content. -/
structure Matches (t : Tensor) (c : Content) : Prop where
  content : t.content = some c
  shape : t.shape = some c.dims
  dtype : t.dtype = some c.type

theorem getLast?_cons_or {α : Type} (x : α) (later : List α) (before : Option α) :
    (x :: later).getLast?.or before = later.getLast?.or (some x) := by
  rw [List.getLast?_cons, Option.some_or, Option.or_some]

/-- A detail that has been put in counts as the first of those that follow. -/
theorem described_add (t : Tensor) (detail : Detail) (later : List Detail) :
    (t.add detail).described later = t.described (detail :: later) := by
  refine (Tensor.mk.injEq ..).mpr ?_
  cases detail with
  | shape dims => exact ⟨rfl, rfl, rfl, (getLast?_cons_or dims _ _).symm, rfl, rfl⟩
  | dtype type => exact ⟨rfl, rfl, rfl, rfl, rfl, (getLast?_cons_or type _ _).symm⟩
  | content c =>
    exact ⟨rfl, rfl, rfl, congrArg _ Option.or_some.symm,
      (getLast?_cons_or c _ _).symm, congrArg _ Option.or_some.symm⟩
  | sourceOp op => exact ⟨rfl, List.append_assoc _ _ _, rfl, rfl, rfl, rfl⟩
  | destOp op => exact ⟨rfl, rfl, List.append_assoc _ _ _, rfl, rfl, rfl⟩

theorem foldl_add (t : Tensor) (details : List Detail) :
    details.foldl add t = t.described details := by
  induction details generalizing t with
  | nil => simp [described]
  | cons detail later ih => rw [List.foldl_cons, ih, described_add]

/-- If there is one content and nothing else tells the shape or the type, both are the content's. -/
theorem matches_described {t : Tensor} (unknown : t.shape = none ∧ t.dtype = none)
    {details : List Detail} {c : Content} (only : details.filterMap Detail.content? = [c])
    (noShape : details.filterMap Detail.shape? = [])
    (noType : details.filterMap Detail.dtype? = []) : (t.described details).Matches c where
  content := by simp only [described, only, List.getLast?_singleton, Option.some_or]
  shape := by
    simp only [described, noShape, unknown.1, only, List.getLast?_nil, List.head?_cons,
      Option.none_or, Option.map_some]
  dtype := by
    simp only [described, noType, unknown.2, only, List.getLast?_nil, List.head?_cons,
      Option.none_or, Option.map_some]

/-- A tensor has the shape that is given last, or if none is given that of its first content, and
likewise for the type. It has its last content, and is constant if it is given any. The operators at
its ends are listed in the order in which they are given. So the tensor matches its content if there
is only one and neither a shape nor a type is given. The dimensions that a content shows are its
extents, which are too small in memory to be cut off. -/
theorem ofDetails_given (name : String) (details : List Detail) :
    let shapes := details.filterMap Detail.shape?
    let types := details.filterMap Detail.dtype?
    let contents := details.filterMap Detail.content?
    let tensor := ofDetails name details
    tensor.name = name ∧
      tensor.shape = shapes.getLast?.or (contents.head?.map Content.dims) ∧
      tensor.dtype = types.getLast?.or (contents.head?.map Content.type) ∧
      tensor.content = contents.getLast? ∧
      (tensor.isConst ↔ contents ≠ []) ∧
      tensor.sourceOps = details.filterMap Detail.sourceOp? ∧
      tensor.destOps = details.filterMap Detail.destOp? ∧
      (∀ c, contents = [c] → shapes = [] → types = [] → tensor.Matches c) ∧
      ∀ c ∈ contents, c.array.Addressable → c.dims.map (·.toInt) = c.shape.map Int.ofNat := by
  intro shapes types contents tensor
  have whole : tensor = described { name } details := foldl_add { name } details
  have content : tensor.content = contents.getLast? := by
    rw [whole]
    exact Option.or_none
  have const : tensor.isConst ↔ contents ≠ [] := by
    rw [isConst, content, List.getLast?_isSome]
  rw [whole] at content const ⊢
  exact ⟨rfl, rfl, rfl, content, const, rfl, rfl, fun _ => matches_described ⟨rfl, rfl⟩,
    fun _ _ => Content.toInt_dims⟩

/-- A column of two numbers, the second of which comes first in memory, between two operators. -/
theorem ofDetails_given_column :
    let c : Content := ⟨.i8, (StridedArray.columnMajor [2, 1] [3, -2] rfl).invert 0⟩
    let details : List Detail := [.destOp "softmax", .content c, .sourceOp "axis"]
    details.filterMap Detail.content? = [c] ∧ (ofDetails "axis:0" details).Matches c ∧
      c.array.Addressable ∧ c.dims.map (·.toInt) = [2, 1] := by
  intro c details
  have addressable : c.array.Addressable := by
    change _ ≤ _
    decide
  obtain ⟨-, -, -, -, -, -, -, only, extents⟩ := ofDetails_given "axis:0" details
  exact ⟨rfl, only c rfl rfl rfl, addressable, extents c (List.mem_singleton_self c) addressable⟩

/-- A second content leaves the shape that the first one showed. -/
example (c d : Content) : (ofDetails "x" [.content c, .content d]).shape = some c.dims ∧
    (ofDetails "x" [.content c, .content d]).content = some d :=
  ⟨rfl, rfl⟩

end Tensor
end NodeLowering
