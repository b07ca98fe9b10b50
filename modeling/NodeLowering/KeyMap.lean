import NodeLowering.Text.Utf8

/-! Finite maps from strings, listed in ascending order of the key's bytes. The order is part of
the type, so two maps with the same bindings are the same map. -/
namespace NodeLowering

/-- Bindings in strictly ascending order of their keys. -/
structure KeyMap (α : Type) where
  toList : List (String × α)
  ascending : toList.Pairwise fun a b => Utf8.Before a.1 b.1

namespace KeyMap
variable {α : Type}

instance [DecidableEq α] : DecidableEq (KeyMap α) := fun m n =>
  decidable_of_iff (m.toList = n.toList) ⟨fun h => by cases m; cases n; cases h; rfl, congrArg _⟩

def empty : KeyMap α := ⟨[], .nil⟩

instance : EmptyCollection (KeyMap α) := ⟨empty⟩
instance : Inhabited (KeyMap α) := ⟨empty⟩

def find? (m : KeyMap α) (key : String) : Option α := m.toList.lookup key

def contains (m : KeyMap α) (key : String) : Bool := (m.find? key).isSome

def keys (m : KeyMap α) : List String := m.toList.map Prod.fst

/-- Places one binding among ascending ones; a binding of the same key gives way. -/
def place (key : String) (value : α) : List (String × α) → List (String × α)
  | [] => [(key, value)]
  | (k, v) :: rest =>
      if key = k then (key, value) :: rest
      else if Utf8.Before key k then (key, value) :: (k, v) :: rest
      else (k, v) :: place key value rest

theorem mem_place {key : String} {value : α} {b : String × α} {l : List (String × α)}
    (h : b ∈ place key value l) : b = (key, value) ∨ b ∈ l := by
  induction l with
  | nil => simpa [place] using h
  | cons head rest ih =>
    obtain ⟨k, v⟩ := head
    rw [place] at h
    split at h
    · rcases List.mem_cons.mp h with rfl | h
      · exact .inl rfl
      · exact .inr (List.mem_cons_of_mem _ h)
    · split at h
      · exact List.mem_cons.mp h
      · rcases List.mem_cons.mp h with rfl | h
        · exact .inr List.mem_cons_self
        · exact (ih h).imp id (List.mem_cons_of_mem _)

theorem place_ascending (key : String) (value : α) {l : List (String × α)}
    (ascending : l.Pairwise fun a b => Utf8.Before a.1 b.1) :
    (place key value l).Pairwise fun a b => Utf8.Before a.1 b.1 := by
  induction l with
  | nil => exact List.pairwise_singleton _ _
  | cons head rest ih =>
    obtain ⟨k, v⟩ := head
    obtain ⟨first, later⟩ := List.pairwise_cons.mp ascending
    rw [place]
    split
    · next same => exact List.pairwise_cons.mpr ⟨fun b hb => same ▸ first b hb, later⟩
    · next different =>
      split
      · next before =>
        refine List.pairwise_cons.mpr ⟨fun b hb => ?_, ascending⟩
        rcases List.mem_cons.mp hb with rfl | hb
        · exact before
        · exact before.trans (first b hb)
      · next after =>
        refine List.pairwise_cons.mpr ⟨fun b hb => ?_, ih later⟩
        rcases mem_place hb with rfl | hb
        · exact Utf8.Before.total different after
        · exact first b hb

def insert (m : KeyMap α) (key : String) (value : α) : KeyMap α :=
  ⟨place key value m.toList, place_ascending key value m.ascending⟩

def erase (m : KeyMap α) (key : String) : KeyMap α :=
  ⟨m.toList.filter (·.1 != key), m.ascending.filter _⟩

/-- Later pairs replace earlier ones with the same key. -/
def insertAll (m : KeyMap α) (pairs : List (String × α)) : KeyMap α :=
  pairs.foldl (fun m pair => m.insert pair.1 pair.2) m

def ofList (pairs : List (String × α)) : KeyMap α := empty.insertAll pairs

/-- The bindings of both maps, those of the second winning. -/
def union (m n : KeyMap α) : KeyMap α := m.insertAll n.toList

/-- The same keys with other values. -/
def map {β : Type} (f : α → β) (m : KeyMap α) : KeyMap β :=
  ⟨m.toList.map fun (key, value) => (key, f value), List.pairwise_map.mpr m.ascending⟩

@[simp] theorem find?_empty (key : String) : (empty : KeyMap α).find? key = none := rfl

theorem lookup_place (key k : String) (value : α) (l : List (String × α)) :
    (place key value l).lookup k = if k = key then some value else l.lookup k := by
  induction l with
  | nil => grind [place]
  | cons head rest ih =>
    obtain ⟨k', v⟩ := head
    rw [place]
    split
    · next same => subst same; grind
    · split <;> grind

theorem find?_insert (m : KeyMap α) (key k : String) (value : α) :
    (m.insert key value).find? k = if k = key then some value else m.find? k :=
  lookup_place key k value m.toList

theorem find?_erase (m : KeyMap α) (key k : String) :
    (m.erase key).find? k = if k = key then none else m.find? k := by
  obtain ⟨l, ascending⟩ := m
  simp only [erase, find?]
  induction l with
  | nil => simp
  | cons head rest ih =>
    have := ih (List.pairwise_cons.mp ascending).2
    grind

theorem mem_keys {m : KeyMap α} {key : String} : key ∈ m.keys ↔ (m.find? key).isSome := by
  obtain ⟨l, ascending⟩ := m
  simp only [keys, find?]
  induction l with
  | nil => simp
  | cons head rest ih =>
    have := ih (List.pairwise_cons.mp ascending).2
    grind

/-- The keys of a map are in strictly ascending order, so that none is listed twice. -/
theorem keys_ascending (m : KeyMap α) : m.keys.Pairwise Utf8.Before :=
  List.pairwise_map.mpr m.ascending

theorem lookup_eq_none_of_before {key : String} {l : List (String × α)}
    (later : ∀ b ∈ l, Utf8.Before key b.1) : l.lookup key = none := by
  induction l with
  | nil => rfl
  | cons head rest ih =>
    have different : key ≠ head.1 := fun same =>
      Utf8.Before.irrefl key (same ▸ later head List.mem_cons_self)
    have := ih fun b hb => later b (List.mem_cons_of_mem _ hb)
    grind

/-- Maps with the same bindings are the same map. -/
theorem ext {m n : KeyMap α} (same : ∀ key, m.find? key = n.find? key) : m = n := by
  obtain ⟨l, hl⟩ := m
  obtain ⟨l', hl'⟩ := n
  simp only [find?] at same
  suffices l = l' by subst this; rfl
  induction l generalizing l' with
  | nil =>
    cases l' with
    | nil => rfl
    | cons head rest => have := same head.1; grind
  | cons head rest ih =>
    obtain ⟨first, later⟩ := List.pairwise_cons.mp hl
    cases l' with
    | nil => have := same head.1; grind
    | cons head' rest' =>
      obtain ⟨first', later'⟩ := List.pairwise_cons.mp hl'
      obtain ⟨k, v⟩ := head
      obtain ⟨k', v'⟩ := head'
      have noneIn : rest.lookup k = none := lookup_eq_none_of_before first
      have noneIn' : rest'.lookup k' = none := lookup_eq_none_of_before first'
      have keys : k = k' := by
        by_cases equal : k = k'
        · exact equal
        · by_cases before : Utf8.Before k k'
          · have absent : rest'.lookup k = none :=
              lookup_eq_none_of_before fun b hb => before.trans (first' b hb)
            have := same k
            grind
          · have after := Utf8.Before.total equal before
            have absent : rest.lookup k' = none :=
              lookup_eq_none_of_before fun b hb => after.trans (first b hb)
            have := same k'
            grind
      subst keys
      have values : v = v' := by simpa using same k
      subst values
      have tails : rest = rest' := by
        apply ih later rest' later'
        intro key
        have := same key
        grind
      rw [tails]

theorem insert_of_find? {m : KeyMap α} {key : String} {value : α}
    (found : m.find? key = some value) : m.insert key value = m := by
  apply ext
  intro k
  rw [find?_insert]
  split
  · next same => rw [same, found]
  · rfl

theorem keys_nodup (m : KeyMap α) : (m.toList.map Prod.fst).Nodup := by
  change m.keys.Pairwise (fun s t => s ≠ t)
  apply m.keys_ascending.imp
  intro s t before same
  exact Utf8.Before.irrefl t (same ▸ before)

/-- Where no key is given twice, a map takes the given values over its own. -/
theorem find?_insertAll (m : KeyMap α) {pairs : List (String × α)}
    (nodup : (pairs.map Prod.fst).Nodup) (key : String) :
    (m.insertAll pairs).find? key = (pairs.lookup key).or (m.find? key) := by
  induction pairs generalizing m with
  | nil => rfl
  | cons pair rest ih =>
    obtain ⟨k, v⟩ := pair
    obtain ⟨fresh, later⟩ := List.nodup_cons.mp nodup
    have step : (m.insertAll ((k, v) :: rest)).find? key = _ := ih (m.insert k v) later
    rw [find?_insert] at step
    rw [step, List.lookup_cons]
    by_cases same : key = k
    · subst same
      have absent : rest.lookup key = none :=
        List.lookup_eq_none_iff.mpr fun pair member => by
          have different : key ≠ pair.1 := fun (same : key = pair.1) =>
            fresh (List.mem_map.mpr ⟨pair, member, same.symm⟩)
          simp [different]
      simp [absent]
    · have different : (key == k) = false := beq_false_of_ne same
      simp [same, different]

theorem lookup_eq_some_iff_mem {pairs : List (String × α)}
    (nodup : (pairs.map Prod.fst).Nodup) {key : String} {value : α} :
    pairs.lookup key = some value ↔ (key, value) ∈ pairs := by
  constructor
  · intro found
    obtain ⟨front, back, rfl, _⟩ := List.lookup_eq_some_iff.mp found
    simp
  · intro member
    obtain ⟨front, back, rfl⟩ := List.append_of_mem member
    refine List.lookup_eq_some_iff.mpr ⟨front, back, rfl, fun pair before => ?_⟩
    rw [List.map_append, List.map_cons, List.nodup_append] at nodup
    have different := nodup.2.2 pair.1 (List.mem_map_of_mem before) key List.mem_cons_self
    simpa using Ne.symm different

theorem mem_toList {m : KeyMap α} {key : String} {value : α} :
    (key, value) ∈ m.toList ↔ m.find? key = some value :=
  (lookup_eq_some_iff_mem m.keys_nodup).symm

theorem insertAll_perm (m : KeyMap α) {pairs others : List (String × α)}
    (nodup : (pairs.map Prod.fst).Nodup) (perm : pairs.Perm others) :
    m.insertAll pairs = m.insertAll others := by
  have nodup' : (others.map Prod.fst).Nodup := (perm.map Prod.fst).nodup_iff.mp nodup
  have same : ∀ key, pairs.lookup key = others.lookup key := fun key =>
    Option.ext fun value => by
      rw [lookup_eq_some_iff_mem nodup, lookup_eq_some_iff_mem nodup', perm.mem_iff]
  apply ext
  intro key
  rw [find?_insertAll m nodup, find?_insertAll m nodup', same]

theorem find?_union (m n : KeyMap α) (key : String) :
    (m.union n).find? key = (n.find? key).or (m.find? key) :=
  find?_insertAll m n.keys_nodup key

theorem empty_union (m : KeyMap α) : empty.union m = m :=
  ext fun key => by rw [find?_union, find?_empty, Option.or_none]

section Map
variable {β : Type} (f : α → β)

theorem find?_map (m : KeyMap α) (key : String) : (m.map f).find? key = (m.find? key).map f := by
  obtain ⟨l, ascending⟩ := m
  simp only [map, find?]
  induction l with
  | nil => rfl
  | cons head rest ih =>
    have later := ih (List.pairwise_cons.mp ascending).2
    rw [List.map_cons, List.lookup_cons, List.lookup_cons, later]
    cases key == head.1 with
    | true => rfl
    | false => rfl

theorem map_insert (m : KeyMap α) (key : String) (value : α) :
    (m.insert key value).map f = (m.map f).insert key (f value) := by
  apply ext
  intro k
  rw [find?_map, find?_insert, find?_insert, find?_map]
  by_cases same : k = key
  · rw [if_pos same, if_pos same]
    rfl
  · rw [if_neg same, if_neg same]

theorem map_map {γ : Type} (g : β → γ) (m : KeyMap α) : (m.map f).map g = m.map (g ∘ f) := by
  simp only [map, List.map_map]
  rfl

variable {f}

theorem map_congr {g : α → β} {m : KeyMap α}
    (same : ∀ key value, m.find? key = some value → f value = g value) : m.map f = m.map g := by
  apply ext
  intro key
  rw [find?_map, find?_map]
  cases found : m.find? key with
  | none => rfl
  | some value => exact congrArg some (same key value found)

/-- Functions that agree on all values but one give maps that differ in one binding. -/
theorem map_eq_insert {g : α → β} {m : KeyMap α} {key : String} {value : α} {image : β}
    (found : m.find? key = some value) (own : f value = image)
    (others : ∀ other value, other ≠ key → m.find? other = some value → f value = g value) :
    m.map f = (m.map g).insert key image := by
  apply ext
  intro k
  rw [find?_map, find?_insert, find?_map]
  by_cases same : k = key
  · rw [if_pos same, same, found, Option.map_some, own]
  · rw [if_neg same]
    cases found' : m.find? k with
    | none => rfl
    | some value' => exact congrArg some (others k value' same found')

end Map

end KeyMap
end NodeLowering
