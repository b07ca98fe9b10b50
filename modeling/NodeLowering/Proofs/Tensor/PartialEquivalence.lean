import Mathlib.Data.List.Forall2
import NodeLowering.Proofs.Tensor.Equality
import NodeLowering.Tensor.Basic

/-! Equality as a partial equivalence. It is symmetric and transitive, but NaNs are not equal to
themselves, and so neither is what has a NaN in it. The law holds of numbers and is kept by the ways
in which arrays, contents and tensors are put together from them. -/
namespace NodeLowering

/-- A relation that is symmetric and transitive. The regular values are those related to
themselves. -/
structure PartialEquivalence {α : Type} (related : α → α → Prop) (regular : α → Prop) : Prop where
  symm : ∀ {a b}, related a b → related b a
  trans : ∀ {a b c}, related a b → related b c → related a c
  self_iff : ∀ {a}, related a a ↔ regular a

namespace PartialEquivalence
variable {α β : Type} {related other : α → α → Prop} {regular settled : α → Prop}

theorem eq : PartialEquivalence (@Eq α) fun _ => True where
  symm := Eq.symm
  trans := Eq.trans
  self_iff := iff_of_true rfl trivial

theorem comap (h : PartialEquivalence related regular) (f : β → α) :
    PartialEquivalence (fun x y => related (f x) (f y)) fun x => regular (f x) where
  symm := h.symm
  trans := h.trans
  self_iff := h.self_iff

theorem and (h : PartialEquivalence related regular) (k : PartialEquivalence other settled) :
    PartialEquivalence (fun a b => related a b ∧ other a b) fun a => regular a ∧ settled a where
  symm both := ⟨h.symm both.1, k.symm both.2⟩
  trans first second := ⟨h.trans first.1 second.1, k.trans first.2 second.2⟩
  self_iff := and_congr h.self_iff k.self_iff

/-- Besides being related, values have the same key. -/
theorem keyed {κ : Type} (h : PartialEquivalence related regular) (key : α → κ) :
    PartialEquivalence (fun a b => key a = key b ∧ related a b) regular where
  symm both := ⟨both.1.symm, h.symm both.2⟩
  trans first second := ⟨first.1.trans second.1, h.trans first.2 second.2⟩
  self_iff := (and_iff_right rfl).trans h.self_iff

theorem congr (h : PartialEquivalence related regular) (same : ∀ {a b}, other a b ↔ related a b)
    (alike : ∀ a, settled a ↔ regular a) : PartialEquivalence other settled where
  symm first := same.mpr (h.symm (same.mp first))
  trans first second := same.mpr (h.trans (same.mp first) (same.mp second))
  self_iff := same.trans (h.self_iff.trans (alike _).symm)

theorem list (h : PartialEquivalence related regular) :
    PartialEquivalence (List.Forall₂ related) fun xs => ∀ x ∈ xs, regular x where
  symm each := (each.imp fun _ _ => h.symm).flip
  trans {xs ys zs} first second := by
    induction first generalizing zs with
    | nil =>
      cases second
      exact .nil
    | cons head _ ih =>
      cases second with
      | cons head' tail' => exact .cons (h.trans head head') (ih tail')
  self_iff := List.forall₂_same.trans (forall₂_congr fun _ _ => h.self_iff)

theorem option (h : PartialEquivalence related regular) :
    PartialEquivalence (Option.Rel related) fun value => ∀ a, value = some a → regular a where
  symm
    | .none => .none
    | .some first => .some (h.symm first)
  trans
    | .none, .none => .none
    | .some first, .some second => .some (h.trans first second)
  self_iff {value} := by
    cases value with
    | none => exact iff_of_true .none nofun
    | some a =>
      constructor
      · intro self b same
        obtain rfl := Option.some.inj same
        cases self with
        | some self => exact h.self_iff.mp self
      · intro each
        exact .some (h.self_iff.mpr (each a rfl))

/-- Numbers are equal if their encodings are the same or both are zeros, and no NaN is equal to
anything. -/
theorem numeric {number bits : Type} [DecidableEq bits] (encoding : number → bits)
    (isNaN isZero : number → Bool)
    (zeros : ∀ {x y}, encoding x = encoding y → isZero x = isZero y) :
    PartialEquivalence (fun x y => (!isNaN x && !isNaN y &&
      (encoding x == encoding y || isZero x && isZero y)) = true) fun x => isNaN x = false where
  symm := by grind
  trans := by grind
  self_iff := by simp

end PartialEquivalence

theorem Binary32.partialEquivalence :
    PartialEquivalence (fun x y : Binary32 => x.equal y = true) fun x => x.isNaN = false :=
  .numeric bits isNaN isZero fun same => by rw [isZero, isZero, magnitude, magnitude, same]

theorem Binary64.partialEquivalence :
    PartialEquivalence (fun x y : Binary64 => x.equal y = true) fun x => x.isNaN = false :=
  .numeric bits isNaN isZero fun same => by rw [isZero, isZero, magnitude, magnitude, same]

namespace DatumType

theorem partialEquivalence (type : DatumType) :
    PartialEquivalence (fun x y => type.equal x y = true) fun x => type.isNaN x = false := by
  cases type with
  | f32 => exact Binary32.partialEquivalence
  | f64 => exact Binary64.partialEquivalence
  | bool | u8 | i8 | i32 | i64 =>
    exact PartialEquivalence.eq.congr beq_iff_eq fun _ => iff_of_true rfl trivial

/-- Equal elements stand for the same integer, if they stand for one. -/
theorem toInt64?_of_equal {type : DatumType} {x y : type.Elem} (equal : type.equal x y = true) :
    type.toInt64? x = type.toInt64? y := by
  cases type with
  | f32 | f64 => rfl
  | bool | u8 | i8 | i32 | i64 => exact congrArg _ (eq_of_beq equal)

end DatumType

namespace StridedArray
variable {α : Type}

theorem equal_iff {same : α → α → Bool} {a b : StridedArray α} :
    a.equal same b = true ↔
      a.shape = b.shape ∧ List.Forall₂ (fun x y => same x y = true) a.values b.values := by
  simp only [equal, Bool.and_eq_true, beq_iff_eq, List.all_eq_true, List.forall₂_iff_zip,
    Prod.forall, and_assoc]

theorem partialEquivalence {same : α → α → Bool} {regular : α → Prop}
    (h : PartialEquivalence (fun x y => same x y = true) regular) :
    PartialEquivalence (fun a b : StridedArray α => a.equal same b = true) fun a =>
      ∀ x ∈ a.values, regular x :=
  ((h.list.comap values).keyed shape).congr equal_iff fun _ => .rfl

end StridedArray

namespace Content

/-- No value is a NaN. -/
def NaNFree (c : Content) : Prop := ∀ x ∈ c.values, c.type.isNaN x = false

theorem equal_mk {type : DatumType} (a b : StridedArray type.Elem) :
    equal ⟨type, a⟩ ⟨type, b⟩ = a.equal type.equal b := dif_pos rfl

/-- Only contents of the same type are equal. -/
theorem exists_of_equal {type : DatumType} {a : StridedArray type.Elem} {d : Content}
    (same : equal ⟨type, a⟩ d = true) : ∃ b, d = ⟨type, b⟩ := by
  obtain ⟨type', b⟩ := d
  rw [equal] at same
  split at same
  · next types =>
    obtain rfl : type = type' := types
    exact ⟨b, rfl⟩
  · contradiction

theorem partialEquivalence :
    PartialEquivalence (fun c d : Content => c.equal d = true) NaNFree where
  symm {c d} same := by
    obtain ⟨type, a⟩ := c
    obtain ⟨b, rfl⟩ := exists_of_equal same
    rw [equal_mk] at same ⊢
    exact (StridedArray.partialEquivalence type.partialEquivalence).symm same
  trans {c d e} first second := by
    obtain ⟨type, a⟩ := c
    obtain ⟨b, rfl⟩ := exists_of_equal first
    obtain ⟨b', rfl⟩ := exists_of_equal second
    rw [equal_mk] at first second ⊢
    exact (StridedArray.partialEquivalence type.partialEquivalence).trans first second
  self_iff {c} := by
    rw [equal_mk]
    exact (StridedArray.partialEquivalence c.type.partialEquivalence).self_iff

/-- Equal contents start with the same integer, if they start with one. -/
theorem first?_of_equal {c d : Content} (same : c.equal d = true) : c.first? = d.first? := by
  obtain ⟨type, a⟩ := c
  obtain ⟨b, rfl⟩ := exists_of_equal same
  rw [equal_mk, StridedArray.equal_iff] at same
  change a.values.head? >>= type.toInt64? = b.values.head? >>= type.toInt64?
  generalize a.values = xs, b.values = ys at same
  cases same.2 with
  | nil => rfl
  | cons first _ => exact DatumType.toInt64?_of_equal first

end Content

namespace Tensor

/-- The content has no NaN, if there is content. -/
def NaNFree (t : Tensor) : Prop := ∀ content, t.content = some content → content.NaNFree

theorem equal_iff {t u : Tensor} :
    t.equal u = true ↔
      (t.name, t.sourceOps, t.destOps, t.shape, t.dtype) =
          (u.name, u.sourceOps, u.destOps, u.shape, u.dtype) ∧
        Option.Rel (fun c d => c.equal d = true) t.content u.content := by
  obtain ⟨name, sourceOps, destOps, shape, content, dtype⟩ := t
  obtain ⟨name', sourceOps', destOps', shape', content', dtype'⟩ := u
  cases content with
  | none => cases content' <;> simp [equal, and_assoc]
  | some c => cases content' <;> simp [equal, and_assoc]

theorem partialEquivalence :
    PartialEquivalence (fun t u : Tensor => t.equal u = true) NaNFree :=
  ((Content.partialEquivalence.option.comap content).keyed fun t =>
    (t.name, t.sourceOps, t.destOps, t.shape, t.dtype)).congr equal_iff fun _ => .rfl

end Tensor
end NodeLowering
