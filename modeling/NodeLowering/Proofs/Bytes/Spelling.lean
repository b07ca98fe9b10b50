import Mathlib.Data.List.Forall2
import NodeLowering.Bytes

/-! Readers and what they read. The spellings of an item are given by a relation that knows nothing
of reading; a reader of them takes a spelling off the front of any byte string, and nothing else.
What follows from this for items that stand one behind the other holds for every reader. -/
namespace NodeLowering.Bytes
variable {α : Type} {item : Bytes → Option (α × Bytes)} {spells : Bytes → α → Prop}

/-- The reader takes exactly the spellings off the front of byte strings, and no spelling is
empty. -/
structure Reads (item : Bytes → Option (α × Bytes)) (spells : Bytes → α → Prop) : Prop where
  nonempty : ∀ {front a}, spells front a → front ≠ []
  eq_some_iff : ∀ {bs a rest},
    item bs = some (a, rest) ↔ ∃ front, spells front a ∧ bs = front ++ rest

theorem Reads.append (reads : Reads item spells) {front : Bytes} {a : α}
    (spelled : spells front a) (rest : Bytes) : item (front ++ rest) = some (a, rest) :=
  reads.eq_some_iff.mpr ⟨front, spelled, rfl⟩

theorem Reads.spells_of_read (reads : Reads item spells) {bs : Bytes} {a : α}
    (h : item bs = some (a, [])) : spells bs a := by
  obtain ⟨front, spelled, rfl⟩ := reads.eq_some_iff.mp h
  rwa [List.append_nil]

/-- A byte string starts with at most one spelling. -/
theorem Reads.unique (reads : Reads item spells) {front other rest left : Bytes} {a b : α}
    (first : spells front a) (second : spells other b) (same : front ++ rest = other ++ left) :
    a = b ∧ front = other ∧ rest = left := by
  have one := reads.append first rest
  have two := reads.append second left
  rw [same, two] at one
  cases one
  exact ⟨rfl, List.append_cancel_right same, rfl⟩

theorem Reads.delimited (reads : Reads item spells) : Delimited item where
  shorter h := by
    obtain ⟨front, spelled, rfl⟩ := reads.eq_some_iff.mp h
    have := List.length_pos_iff.mpr (reads.nonempty spelled)
    rw [List.length_append]
    omega
  append more h := by
    obtain ⟨front, spelled, rfl⟩ := reads.eq_some_iff.mp h
    rw [List.append_assoc]
    exact reads.append spelled _

/-- Items can be taken up as they are read. -/
theorem foldlM_items_of_item {β : Type} (delimited : Delimited item) {bs rest : Bytes} {a : α}
    (found : item bs = some (a, rest)) (absorb : β → α → Option β) (value : β) :
    (items item bs >>= fun xs => xs.foldlM absorb value) =
      absorb value a >>= fun next => items item rest >>= fun xs => xs.foldlM absorb next := by
  rw [items_of_item delimited found]
  cases items item rest with
  | none => cases absorb value a <;> rfl
  | some others => simp

theorem items_eq_none {bs : Bytes} (nonempty : bs ≠ []) (unread : item bs = none) :
    items item bs = none := by
  cases bs with
  | nil => exact absurd rfl nonempty
  | cons b bs => simp [items, itemsUpTo, unread]

/-- The bytes are taken for the item whatever follows them. -/
def Stands (item : Bytes → Option (α × Bytes)) (front : Bytes) (a : α) : Prop :=
  front ≠ [] ∧ ∀ rest, item (front ++ rest) = some (a, rest)

/-- A reader that only looks at the bytes that it takes reads the byte strings that stand for its
items. -/
theorem reads_stands (own : ∀ {bs a rest}, item bs = some (a, rest) →
    ∃ front, Stands item front a ∧ bs = front ++ rest) : Reads item (Stands item) where
  nonempty stands := stands.1
  eq_some_iff {bs a rest} := by
    constructor
    · exact own
    · rintro ⟨front, stands, rfl⟩
      exact stands.2 rest

/-- Where the front on its own is no item, an item takes some of what follows it. -/
theorem Reads.shorter_of_none (reads : Reads item spells) {front back rest : Bytes} {a : α}
    (unread : item front = none) (found : item (front ++ back) = some (a, rest)) :
    rest.length < back.length := by
  obtain ⟨taken, spelled, whole⟩ := reads.eq_some_iff.mp found
  rcases List.append_eq_append_iff.mp whole with ⟨further, rfl, rfl⟩ | ⟨left, rfl, rfl⟩
  · have more : further ≠ [] := by
      rintro rfl
      have alone := reads.append spelled []
      rw [List.append_nil, List.append_nil, unread] at alone
      cases alone
    have := List.length_pos_iff.mpr more
    rw [List.length_append]
    omega
  · cases unread.symm.trans (reads.append spelled left)

/-- The byte string falls into spellings of the items, one behind the other. -/
def Spell (spells : Bytes → α → Prop) (bs : Bytes) (xs : List α) : Prop :=
  ∃ parts, List.Forall₂ spells parts xs ∧ bs = parts.flatten

theorem spell_nil {bs : Bytes} : Spell spells bs [] ↔ bs = [] := by
  constructor
  · rintro ⟨parts, each, rfl⟩
    rw [List.forall₂_nil_right_iff.mp each]
    rfl
  · rintro rfl
    exact ⟨[], .nil, rfl⟩

theorem spell_cons {bs : Bytes} {x : α} {xs : List α} :
    Spell spells bs (x :: xs) ↔ ∃ front back, spells front x ∧ Spell spells back xs ∧
      bs = front ++ back := by
  constructor
  · rintro ⟨parts, each, rfl⟩
    obtain ⟨front, rest, first, later, rfl⟩ := List.forall₂_cons_right_iff.mp each
    exact ⟨front, _, first, ⟨rest, later, rfl⟩, rfl⟩
  · rintro ⟨front, back, first, ⟨rest, later, rfl⟩, rfl⟩
    exact ⟨front :: rest, .cons first later, rfl⟩

/-- Reading item after item gives the items into whose spellings the whole byte string falls. -/
theorem Reads.items_eq_some_iff (reads : Reads item spells) {bs : Bytes} {xs : List α} :
    items item bs = some xs ↔ Spell spells bs xs := by
  induction size : bs.length using Nat.strongRecOn generalizing bs xs with
  | ind size ih =>
    constructor
    · intro h
      cases bs with
      | nil =>
        cases h
        exact spell_nil.mpr rfl
      | cons b bs =>
        cases found : item (b :: bs) with
        | none => simp [items, itemsUpTo, found] at h
        | some pair =>
          obtain ⟨x, rest⟩ := pair
          rw [items_of_item reads.delimited found] at h
          obtain ⟨others, later, rfl⟩ := Option.map_eq_some_iff.mp h
          obtain ⟨front, spelled, whole⟩ := reads.eq_some_iff.mp found
          have short := reads.delimited.shorter found
          exact spell_cons.mpr
            ⟨front, rest, spelled, (ih rest.length (by omega) rfl).mp later, whole⟩
    · intro h
      cases xs with
      | nil =>
        rw [spell_nil.mp h]
        rfl
      | cons x xs =>
        obtain ⟨front, back, first, later, rfl⟩ := spell_cons.mp h
        have found := reads.append first back
        have short := reads.delimited.shorter found
        rw [items_of_item reads.delimited found, (ih back.length (by omega) rfl).mpr later]
        rfl

/-- Whether a byte string falls into items depends only on where the items end. -/
theorem items_isSome_congr {β : Type} {other : Bytes → Option (β × Bytes)}
    (ends : ∀ bs, (item bs).map Prod.snd = (other bs).map Prod.snd) (bs : Bytes) :
    (items item bs).isSome = (items other bs).isSome := by
  unfold items
  generalize bs.length = limit
  induction limit generalizing bs with
  | zero => cases bs <;> rfl
  | succ limit ih =>
    cases bs with
    | nil => rfl
    | cons b bs =>
      have same := ends (b :: bs)
      rw [itemsUpTo, itemsUpTo]
      cases first : item (b :: bs) with
      | none =>
        rw [first] at same
        rw [Option.map_eq_none_iff.mp same.symm]
        rfl
      | some pair =>
        rw [first] at same
        obtain ⟨pair', second, rest⟩ := Option.map_eq_some_iff.mp same.symm
        obtain ⟨x, left⟩ := pair
        obtain ⟨y, left'⟩ := pair'
        cases rest
        simpa [second, Option.isSome_bind] using ih left

/-- The reader of pieces of a fixed length. -/
theorem cut_reads {count : Nat} (positive : 0 < count) :
    Reads (cut count) fun front piece => front = piece ∧ front.length = count where
  nonempty := by
    rintro front piece ⟨_, length⟩
    exact List.ne_nil_of_length_pos (by omega)
  eq_some_iff {bs piece rest} := by
    constructor
    · intro h
      obtain ⟨rfl, length⟩ := append_of_cut h
      exact ⟨piece, ⟨rfl, length⟩, rfl⟩
    · rintro ⟨front, ⟨rfl, rfl⟩, rfl⟩
      exact cut_append front rest

theorem items_cut_eq_some_iff {count : Nat} (positive : 0 < count) {bs : Bytes}
    {pieces : List Bytes} : items (cut count) bs = some pieces ↔
      (∀ piece ∈ pieces, piece.length = count) ∧ bs = pieces.flatten := by
  rw [(cut_reads positive).items_eq_some_iff]
  constructor
  · rintro ⟨parts, each, rfl⟩
    have same : parts = pieces := List.forall₂_eq_eq_eq ▸ each.imp fun _ _ h => h.1
    subst same
    exact ⟨fun piece member => (List.forall₂_same.mp each piece member).2, rfl⟩
  · rintro ⟨each, rfl⟩
    exact ⟨pieces, List.forall₂_same.mpr fun piece member => ⟨rfl, each piece member⟩, rfl⟩

end NodeLowering.Bytes
