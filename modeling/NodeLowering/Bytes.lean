/-! Byte strings, read from the front. A reader of an item takes a byte string and returns the item
with the bytes after it, or nothing if no item starts there. -/
namespace NodeLowering

abbrev Bytes := List UInt8

namespace Bytes
variable {α : Type}

/-- The first `count` bytes and the rest, if there are that many. -/
def cut : (count : Nat) → Bytes → Option (Bytes × Bytes)
  | 0, bs => some ([], bs)
  | _ + 1, [] => none
  | count + 1, b :: bs => (cut count bs).map fun (front, back) => (b :: front, back)

/-- At most `limit` items that follow each other and leave nothing over. -/
def itemsUpTo (item : Bytes → Option (α × Bytes)) : (limit : Nat) → Bytes → Option (List α)
  | _, [] => some []
  | 0, _ :: _ => none
  | limit + 1, b :: bs => do
      let (first, rest) ← item (b :: bs)
      let others ← itemsUpTo item limit rest
      return first :: others

/-- The items that follow each other in `bs` and leave nothing over. An item takes at least one
byte, so there are no more of them than bytes. -/
def items (item : Bytes → Option (α × Bytes)) (bs : Bytes) : Option (List α) :=
  itemsUpTo item bs.length bs

/-- The number whose base-256 digits are the bytes, the lowest first. -/
def toNat : Bytes → Nat
  | [] => 0
  | b :: bs => b.toNat + 256 * toNat bs

/-- The `count` lowest base-256 digits of a number, the lowest first. -/
def ofNat : (count : Nat) → Nat → Bytes
  | 0, _ => []
  | count + 1, n => UInt8.ofNat n :: ofNat count (n / 256)

/-- One more than the largest number of `count` digits. -/
def capacity : (count : Nat) → Nat
  | 0 => 1
  | count + 1 => 256 * capacity count

@[simp] theorem length_ofNat (count n : Nat) : (ofNat count n).length = count := by
  induction count generalizing n with
  | zero => rfl
  | succ count ih => simp [ofNat, ih]

theorem toNat_ofNat (count n : Nat) : toNat (ofNat count n) = n % capacity count := by
  induction count generalizing n with
  | zero => simp [ofNat, toNat, capacity, Nat.mod_one]
  | succ count ih =>
    simp only [ofNat, toNat, capacity, ih, UInt8.toNat_ofNat']
    exact Nat.mod_mul.symm

theorem toNat_lt (bs : Bytes) : toNat bs < capacity bs.length := by
  induction bs with
  | nil => decide
  | cons b bs ih =>
    have small := b.toNat_lt
    simp only [toNat, List.length_cons, capacity]
    omega

theorem cut_append (front back : Bytes) :
    cut front.length (front ++ back) = some (front, back) := by
  induction front with
  | nil => rfl
  | cons b front ih => simp [cut, ih]

theorem append_of_cut {count : Nat} {bs front back : Bytes}
    (h : cut count bs = some (front, back)) : bs = front ++ back ∧ front.length = count := by
  induction count generalizing bs front with
  | zero =>
    cases h
    exact ⟨rfl, rfl⟩
  | succ count ih =>
    cases bs with
    | nil => contradiction
    | cons b bs =>
      obtain ⟨⟨front', back'⟩, inner, same⟩ := Option.map_eq_some_iff.mp h
      cases same
      obtain ⟨rfl, rfl⟩ := ih inner
      exact ⟨rfl, rfl⟩

/-- A reader takes at least one byte, and takes no notice of the bytes after its item. -/
structure Delimited (item : Bytes → Option (α × Bytes)) : Prop where
  shorter : ∀ {bs a rest}, item bs = some (a, rest) → rest.length < bs.length
  append : ∀ {bs a rest} (more), item bs = some (a, rest) →
    item (bs ++ more) = some (a, rest ++ more)

theorem itemsUpTo_of_le {item : Bytes → Option (α × Bytes)} (delimited : Delimited item)
    {limit : Nat} {bs : Bytes} (enough : bs.length ≤ limit) :
    itemsUpTo item limit bs = items item bs := by
  induction limit using Nat.strongRecOn generalizing bs with
  | ind limit ih =>
    cases bs with
    | nil => simp [items, itemsUpTo]
    | cons b bs =>
      obtain ⟨limit, rfl⟩ : ∃ n, limit = n + 1 := ⟨limit - 1, by simp at enough; omega⟩
      simp only [items, List.length_cons, itemsUpTo]
      cases found : item (b :: bs) with
      | none => rfl
      | some pair =>
        obtain ⟨first, rest⟩ := pair
        have short := delimited.shorter found
        simp only [List.length_cons] at short enough
        simp only [Option.bind_eq_bind, Option.bind_some]
        rw [@ih limit (by omega) rest (by omega)]
        by_cases same : bs.length = limit
        · rw [same, @ih limit (by omega) rest (by omega)]
        · rw [@ih bs.length (by omega) rest (by omega)]

theorem items_of_item {item : Bytes → Option (α × Bytes)} (delimited : Delimited item)
    {bs rest : Bytes} {first : α} (found : item bs = some (first, rest)) :
    items item bs = (items item rest).map (first :: ·) := by
  have short := delimited.shorter found
  cases bs with
  | nil => simp at short
  | cons b bs =>
    simp only [List.length_cons] at short
    simp only [items, List.length_cons, itemsUpTo, found, Option.bind_eq_bind, Option.bind_some]
    rw [itemsUpTo_of_le delimited (by omega)]
    simp only [items, Option.map_eq_bind]
    rfl

theorem items_append {item : Bytes → Option (α × Bytes)} (delimited : Delimited item)
    {front : Bytes} {xs : List α} (h : items item front = some xs) (back : Bytes) :
    items item (front ++ back) = (items item back).map (xs ++ ·) := by
  induction size : front.length using Nat.strongRecOn generalizing front xs with
  | ind size ih =>
    cases front with
    | nil =>
      cases h
      simp
    | cons b bs =>
      cases found : item (b :: bs) with
      | none => simp [items, itemsUpTo, found] at h
      | some pair =>
        obtain ⟨first, rest⟩ := pair
        rw [items_of_item delimited found] at h
        obtain ⟨others, later, rfl⟩ := Option.map_eq_some_iff.mp h
        have short := delimited.shorter found
        rw [items_of_item delimited (delimited.append back found),
          ih rest.length (by omega) later rfl]
        simp [Function.comp_def]

end Bytes
end NodeLowering
