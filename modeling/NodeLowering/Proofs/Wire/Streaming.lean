import NodeLowering.Proofs.Wire.Grammar

/-! Reading through. A reader that does not cut blocks off takes the fields of a message in a block
from all the bytes that there are. Behind each field it compares lengths: while more bytes are left
than are to be left behind the block it goes on, and if fewer are left the block has been overrun.
It reads the same byte strings as a reader that cuts blocks off first, with the same values. The law
is kept by the ways of putting formats together. -/
namespace NodeLowering

namespace Bytes
variable {α β : Type} {item : α → Bytes → Option (α × Bytes)} {limit left : Nat} {value : α}

/-- Reads an item and takes it up. -/
def takeUp (read : Bytes → Option (β × Bytes)) (absorb : α → β → Option α) (value : α)
    (bs : Bytes) : Option (α × Bytes) :=
  read bs >>= fun pair => (absorb value pair.1).map fun value => (value, pair.2)

/-- Takes items up until `left` bytes are left, if that is where an item ends. Items take at least
one byte, so there are no more than bytes to be taken. -/
def takeUntil (item : α → Bytes → Option (α × Bytes)) (left : Nat) :
    (limit : Nat) → α → Bytes → Option (α × Bytes)
  | 0, value, bs => if bs.length = left then some (value, bs) else none
  | limit + 1, value, bs =>
      if left < bs.length then do
        let (value, rest) ← item value bs
        takeUntil item left limit value rest
      else if bs.length = left then some (value, bs) else none

theorem takeUntil_end (item : α → Bytes → Option (α × Bytes)) (limit : Nat) (value : α)
    (bs : Bytes) : takeUntil item bs.length limit value bs = some (value, bs) := by
  cases limit with
  | zero => rw [takeUntil, if_pos rfl]
  | succ limit => rw [takeUntil, if_neg (Nat.lt_irrefl _), if_pos rfl]

theorem takeUntil_overrun {bs : Bytes} (short : bs.length < left) :
    takeUntil item left limit value bs = none := by
  cases limit with
  | zero => rw [takeUntil, if_neg (by omega)]
  | succ limit => rw [takeUntil, if_neg (by omega), if_neg (by omega)]

theorem takeUntil_step {bs : Bytes} (more : left < bs.length) :
    takeUntil item left (limit + 1) value bs =
      item value bs >>= fun pair => takeUntil item left limit pair.1 pair.2 :=
  if_pos more

/-- Taking items up as far as some bytes go is taking up the items of these bytes. -/
theorem Reads.takeUntil_eq {read : Bytes → Option (β × Bytes)} {spells : Bytes → β → Prop}
    (reads : Reads read spells) (absorb : α → β → Option α) {front : Bytes}
    (enough : front.length ≤ limit) (value : α) (back : Bytes) :
    takeUntil (takeUp read absorb) back.length limit value (front ++ back) =
      (items read front >>= fun xs => xs.foldlM absorb value).map fun value => (value, back) := by
  induction limit generalizing front value with
  | zero =>
    obtain rfl := List.length_eq_zero_iff.mp (Nat.le_zero.mp enough)
    exact takeUntil_end _ 0 value back
  | succ limit ih =>
    by_cases done : front = []
    · subst done
      exact takeUntil_end _ (limit + 1) value back
    · have more : back.length < (front ++ back).length := by
        have := List.length_pos_iff.mpr done
        rw [List.length_append]
        omega
      rw [takeUntil_step more, takeUp]
      cases first : read front with
      | some pair =>
        obtain ⟨x, rest⟩ := pair
        have short := reads.delimited.shorter first
        rw [reads.delimited.append back first,
          foldlM_items_of_item reads.delimited first absorb value]
        cases absorbed : absorb value x with
        | none => simp [absorbed]
        | some next => simpa [absorbed] using ih (by omega) next
      | none =>
        rw [items_eq_none done first]
        cases found : read (front ++ back) with
        | none => rfl
        | some pair =>
          have short := reads.shorter_of_none first found
          cases absorbed : absorb value pair.1 with
          | none => simp [absorbed]
          | some next => simp [absorbed, takeUntil_overrun short]

end Bytes

namespace Wire

theorem Payload.wire_of_read {wire : WireType} {bs : Bytes} {pair : Payload × Bytes}
    (read : Payload.read wire bs = some pair) : pair.1.wire = wire := by
  obtain ⟨front, ⟨same, _⟩, _⟩ := (Payload.read_reads wire).eq_some_iff.mp read
  exact same

theorem Payload.read_block_cases (bs : Bytes) : Payload.read .block bs = none ∨
    ∃ content rest, Payload.read .block bs = some (.block content, rest) := by
  cases read : Payload.read .block bs with
  | none => exact .inl rfl
  | some pair =>
    obtain ⟨front, ⟨wire, _⟩, _⟩ := (Payload.read_reads .block).eq_some_iff.mp read
    obtain ⟨payload, rest⟩ := pair
    cases payload with
    | block content => exact .inr ⟨content, rest, rfl⟩
    | varint | fixed64 | fixed32 => cases wire

/-! Blocks -/

section
variable {α β : Type} {item : α → Bytes → Option (α × Bytes)}

/-- Takes up the items of a block behind the length that it starts with. -/
def takeBlock (item : α → Bytes → Option (α × Bytes)) (value : α) (bs : Bytes) :
    Option (α × Bytes) := do
  let (length, rest) ← Varint.read bs
  if rest.length < length.toNat then none
  else Bytes.takeUntil item (rest.length - length.toNat) length.toNat value rest

theorem takeBlock_of_none {bs : Bytes} (unread : Payload.read .block bs = none) (value : α) :
    takeBlock item value bs = none := by
  rw [takeBlock]
  cases sized : Varint.read bs with
  | none => rfl
  | some pair =>
    obtain ⟨length, rest⟩ := pair
    have short : rest.length < length.toNat := by
      by_contra enough
      have front : (rest.take length.toNat).length = length.toNat :=
        List.length_take_of_le (by omega)
      have cut := Bytes.cut_append (rest.take length.toNat) (rest.drop length.toNat)
      rw [front, List.take_append_drop] at cut
      simp [Payload.read, sized, cut] at unread
    exact if_pos short

theorem takeBlock_of_some {read : Bytes → Option (β × Bytes)} {spells : Bytes → β → Prop}
    (reads : Bytes.Reads read spells) (absorb : α → β → Option α) {bs content rest : Bytes}
    (block : Payload.read .block bs = some (.block content, rest)) (value : α) :
    takeBlock (Bytes.takeUp read absorb) value bs =
      (Bytes.items read content >>= fun xs => xs.foldlM absorb value).map
        fun value => (value, rest) := by
  obtain ⟨_, ⟨_, spelled⟩, rfl⟩ := (Payload.read_reads .block).eq_some_iff.mp block
  cases spelled with
  | @block front _ length spelled exact =>
    have whole := Varint.read_reads.append spelled (content ++ rest)
    have left : (content ++ rest).length - length.toNat = rest.length := by
      rw [List.length_append]
      omega
    have fits : ¬ (content ++ rest).length < length.toNat := by
      rw [List.length_append]
      omega
    rw [takeBlock, List.append_assoc, whole]
    change (if _ then none else _) = _
    rw [if_neg fits, left]
    exact reads.takeUntil_eq absorb (Nat.le_of_eq exact.symm) value rest

/-- Taking up the items of a block as they come is taking up the block that has been cut off. -/
theorem takeBlock_eq {read : Bytes → Option (β × Bytes)} {spells : Bytes → β → Prop}
    (reads : Bytes.Reads read spells) (absorb : α → β → Option α) {value : α}
    (accept : Payload → Option α)
    (block : ∀ content, accept (.block content) =
      Bytes.items read content >>= fun xs => xs.foldlM absorb value) (bs : Bytes) :
    takeBlock (Bytes.takeUp read absorb) value bs = Payload.read .block bs >>= fun pair =>
      (accept pair.1).map fun value => (value, pair.2) := by
  rcases Payload.read_block_cases bs with unread | ⟨content, rest, cut⟩
  · rw [unread, takeBlock_of_none unread]
    rfl
  · rw [cut, takeBlock_of_some reads absorb cut, ← block]
    rfl

end

/-- The scalar reads payloads of its wire type only. -/
def Scalar.Strict {α : Type} (s : Scalar α) : Prop :=
  ∀ payload, payload.wire ≠ s.wire → s.ofPayload payload = none

theorem Scalar.Plain.strict {α : Type} {s : Scalar α} (plain : s.Plain) : s.Strict := by
  intro payload different
  rw [← Option.not_isSome_iff_eq_none, plain payload]
  exact different

theorem Scalar.text_strict : text.Strict := by
  intro payload different
  cases payload with
  | block content => exact absurd rfl different
  | varint | fixed64 | fixed32 => rfl

namespace Format
variable {α β σ ν : Type}

/-- Reads the record of a key and takes it up. -/
def acceptAfter (format : Format σ) (depth : Nat) (key : Key) : σ → Bytes → Option (σ × Bytes) :=
  Bytes.takeUp (Record.readAfter format.blocks depth key) fun value record =>
    format.accept depth record value

theorem acceptAfter_single {format : Format σ} (blocks : format.blocks = [])
    (group : ∀ depth number value, format.accept depth (.group number) value = none) (depth : Nat)
    (key : Key) (value : σ) (bs : Bytes) : format.acceptAfter depth key value bs =
      Payload.read key.wire bs >>= fun pair =>
        (format.accept depth (.data key.number pair.1) value).map fun value =>
          (value, pair.2) := by
  have plain : key.number ∉ format.blocks := by simp [blocks]
  rw [acceptAfter, Bytes.takeUp]
  by_cases starts : key.wire = .groupStart
  · rw [Record.readAfter_group plain starts, starts]
    cases skip depth key bs with
    | none => rfl
    | some rest => simp [group, Payload.read]
  · rw [Record.readAfter_single plain starts]
    cases Payload.read key.wire bs <;> rfl

theorem acceptAfter_map {outer : Format σ} {inner : Format α} {depth : Nat} {key : Key} {value : σ}
    {x : α} (f : α → σ)
    (blocks : key.number ∈ outer.blocks ↔ key.number ∈ inner.blocks)
    (accept : ∀ record : Record, record.number = key.number →
      outer.accept depth record value = (inner.accept depth record x).map f) (bs : Bytes) :
    outer.acceptAfter depth key value bs =
      (inner.acceptAfter depth key x bs).map fun pair => (f pair.1, pair.2) := by
  rw [acceptAfter, acceptAfter, Bytes.takeUp, Bytes.takeUp, Record.readAfter_congr blocks]
  cases read : Record.readAfter inner.blocks depth key bs with
  | none => rfl
  | some pair =>
    have number := Record.number_of_readAfter read
    simp only [Option.bind_eq_bind, Option.bind_some, accept pair.1 number, Option.map_map]
    rfl

theorem acceptAfter_congr {outer inner : Format σ} {depth : Nat} {key : Key} {value : σ}
    (blocks : key.number ∈ outer.blocks ↔ key.number ∈ inner.blocks)
    (accept : ∀ record : Record, record.number = key.number →
      outer.accept depth record value = inner.accept depth record value) (bs : Bytes) :
    outer.acceptAfter depth key value bs = inner.acceptAfter depth key value bs := by
  have same := acceptAfter_map (x := value) id blocks (fun record number => by
    rw [accept record number, Option.map_id_fun, id]) bs
  rw [same]
  exact Option.map_id'

/-- A reader that takes the fields of a format from all the bytes behind their keys, and does to the
value what reading their records and taking them up does. Messages may have more than `levels`
further levels. -/
structure Stream (format : Format σ) (levels : Nat) where
  take : (depth : Nat) → Key → σ → Bytes → Option (σ × Bytes)
  take_eq : ∀ {depth key}, levels < depth → key.number ∈ format.numbers → ∀ value bs,
    take depth key value bs = format.acceptAfter depth key value bs
  blocks : ∀ number ∈ format.blocks, number ∈ format.numbers

namespace Stream

/-- Takes up a field, or skips it if it is none of the format. -/
def record {format : Format σ} {levels : Nat} (stream : Stream format levels) (depth : Nat)
    (value : σ) (bs : Bytes) : Option (σ × Bytes) := do
  let (key, rest) ← Key.read bs
  if key.number ∈ format.numbers then stream.take depth key value rest
  else return (value, ← skip depth key rest)

/-- Takes up fields to the end of the bytes. -/
def merge {format : Format σ} {levels : Nat} (stream : Stream format levels) (depth : Nat)
    (value : σ) (bs : Bytes) : Option σ :=
  (Bytes.takeUntil (stream.record depth) 0 bs.length value bs).map Prod.fst

theorem record_eq {format : Format σ} {levels depth : Nat} (stream : Stream format levels)
    (deep : levels < depth) :
    stream.record depth = Bytes.takeUp (Record.read format.blocks depth) (format.absorb depth) := by
  funext value bs
  rw [record, Bytes.takeUp, Record.read_eq]
  cases Key.read bs with
  | none => rfl
  | some pair =>
    obtain ⟨key, rest⟩ := pair
    change (if _ then _ else _) = Record.readAfter format.blocks depth key rest >>= _
    by_cases known : key.number ∈ format.numbers
    · rw [if_pos known, stream.take_eq deep known, acceptAfter, Bytes.takeUp]
      cases read : Record.readAfter format.blocks depth key rest with
      | none => rfl
      | some pair =>
        have number := Record.number_of_readAfter read
        simp only [Option.bind_eq_bind, Option.bind_some, absorb, number, if_pos known]
    · have plain : key.number ∉ format.blocks := fun member => known (stream.blocks _ member)
      rw [if_neg known]
      by_cases group : key.wire = .groupStart
      · rw [Record.readAfter_group plain group]
        cases skip depth key rest with
        | none => rfl
        | some left => simp [absorb, Record.number, known]
      · obtain ⟨depth, rfl⟩ : ∃ n, depth = n + 1 := ⟨depth - 1, by omega⟩
        rw [Record.readAfter_single plain group, skip, if_neg group]
        cases Payload.read key.wire rest with
        | none => rfl
        | some pair => simp [absorb, Record.number, known]

/-- Reading through a message comes to the same as reading its records one by one. -/
theorem merge_eq {format : Format σ} {levels depth : Nat} (stream : Stream format levels)
    (deep : levels < depth) (value : σ) (bs : Bytes) :
    stream.merge depth value bs = format.merge depth value bs := by
  have whole := (Record.read_stands format.blocks depth).takeUntil_eq (format.absorb depth)
    (Nat.le_refl bs.length) value []
  rw [List.append_nil] at whole
  rw [merge, stream.record_eq deep]
  change (Bytes.takeUntil _ ([] : Bytes).length _ _ _).map _ = _
  rw [whole, Option.map_map]
  exact Option.map_id'

/-! One value -/

/-- A scalar is read from its own wire type and refuses the payloads of all others. -/
theorem item_eq {s : Scalar α} (strict : s.Strict) (wire : WireType) (bs : Bytes) :
    (if wire = s.wire then item s bs else none) = Payload.read wire bs >>= fun pair =>
      (s.ofPayload pair.1).map fun x => (x, pair.2) := by
  split
  · next same =>
    rw [same, item]
    cases Payload.read s.wire bs with
    | none => rfl
    | some pair => exact Option.map_eq_bind.symm
  · next different =>
    cases read : Payload.read wire bs with
    | none => rfl
    | some pair =>
      have foreign : pair.1.wire ≠ s.wire := Payload.wire_of_read read ▸ different
      simp [strict pair.1 foreign]

def scalar {number levels : Nat} {s : Scalar α} (strict : s.Strict) :
    Stream (Format.scalar number s) levels where
  take _ key _ bs := if key.wire = s.wire then item s bs else none
  take_eq {depth key} _ _ value bs := by
    rw [acceptAfter_single rfl fun _ _ _ => rfl]
    exact item_eq strict key.wire bs
  blocks _ member := nomatch member

def message {number levels : Nat} {format : Format α} (stream : Stream format levels) :
    Stream (Format.message number format) (levels + 1) where
  take depth key value bs :=
    match depth with
    | 0 => none
    | depth + 1 => if key.wire = .block then takeBlock (stream.record depth) value bs else none
  take_eq {depth key} deep _ value bs := by
    obtain ⟨depth, rfl⟩ : ∃ n, depth = n + 1 := ⟨depth - 1, by omega⟩
    rw [acceptAfter_single rfl fun depth _ _ => by cases depth <;> rfl]
    change (if _ then _ else _) = _
    split
    · next block =>
      rw [block, stream.record_eq (by omega)]
      exact takeBlock_eq (Record.read_stands format.blocks depth) (format.absorb depth)
        (fun payload => (Format.message number format).accept (depth + 1) (.data key.number payload)
          value) (fun _ => rfl) bs
    · next other =>
      cases read : Payload.read key.wire bs with
      | none => rfl
      | some pair =>
        have different := Payload.wire_of_read read ▸ other
        obtain ⟨payload, rest⟩ := pair
        cases payload with
        | block content => exact absurd rfl different
        | varint | fixed64 | fixed32 => rfl
  blocks _ member := nomatch member

def omitting {format : Format α} {levels : Nat} {unset : α → Bool}
    (stream : Stream format levels) : Stream (format.omitting unset) levels where
  take := stream.take
  take_eq := stream.take_eq
  blocks := stream.blocks

/-- The stream of a format that takes up what another one does, into a part of the value or into an
empty one. -/
def through {inner : Format α} {outer : Format σ} {levels : Nat} (stream : Stream inner levels)
    (start : σ → α) (finish : σ → α → σ) (numbers : outer.numbers = inner.numbers)
    (blocks : outer.blocks = inner.blocks)
    (accept : ∀ depth record value, outer.accept depth record value =
      (inner.accept depth record (start value)).map (finish value)) : Stream outer levels where
  take depth key value bs :=
    (stream.take depth key (start value) bs).map fun pair => (finish value pair.1, pair.2)
  take_eq {depth key} deep known value bs := by
    rw [stream.take_eq deep (numbers ▸ known)]
    exact (acceptAfter_map (finish value) (by rw [blocks])
      (fun record _ => accept depth record value) bs).symm
  blocks number member := by
    rw [blocks] at member
    rw [numbers]
    exact stream.blocks number member

def optional {format : Format α} {levels : Nat} (stream : Stream format levels) :
    Stream format.optional levels :=
  stream.through (·.getD format.empty) (fun _ => some) rfl rfl fun _ _ _ => rfl

/-! Lists -/

def repeated {format : Format α} {levels : Nat} (stream : Stream format levels) :
    Stream format.repeated levels := by
  refine stream.through (fun _ => format.empty) (fun values x => values ++ [x]) rfl rfl ?_
  intro depth record values
  change (format.accept depth record format.empty >>= _) = _
  cases format.accept depth record format.empty <;> rfl

/-- Adds a number that lies there without a key of its own. -/
def push (s : Scalar α) : List α → Bytes → Option (List α × Bytes) :=
  Bytes.takeUp (item s) fun values x => some (values ++ [x])

theorem foldlM_push (values xs : List α) :
    xs.foldlM (fun values x => some (values ++ [x])) values = some (values ++ xs) := by
  induction xs generalizing values with
  | nil => simp
  | cons x xs ih => simp [ih]

def packed {number levels : Nat} {s : Scalar α} (strict : s.Strict) :
    Stream (Format.packed number s) levels where
  take _ key values bs :=
    if key.wire = .block then takeBlock (push s) values bs
    else if key.wire = s.wire then push s values bs else none
  take_eq {depth key} _ _ values bs := by
    rw [acceptAfter_single rfl fun _ _ _ => rfl]
    split
    · next block =>
      rw [block]
      refine takeBlock_eq (item_stands s) (fun values x => some (values ++ [x]))
        (fun payload => (Format.packed number s).accept depth (.data key.number payload) values)
        ?_ bs
      intro content
      change Option.map _ (Bytes.items (item s) content) = _
      cases Bytes.items (item s) content with
      | none => rfl
      | some xs => exact (foldlM_push values xs).symm
    · next single =>
      have number : (if key.wire = s.wire then push s values bs else none) =
          (if key.wire = s.wire then item s bs else none) >>= fun pair =>
            some (values ++ [pair.1], pair.2) := by
        split <;> rfl
      rw [number, item_eq strict]
      cases read : Payload.read key.wire bs with
      | none => rfl
      | some pair =>
        have different : pair.1.wire ≠ .block := Payload.wire_of_read read ▸ single
        obtain ⟨payload, rest⟩ := pair
        cases payload with
        | block content => exact absurd rfl different
        | varint | fixed64 | fixed32 =>
          change (s.ofPayload _).map _ >>= _ = ((s.ofPayload _).map _).map _
          cases s.ofPayload _ <;> rfl
  blocks _ member := nomatch member

/-! Several fields -/

/-- A field of one format holds a block whatever its key says if it does so among others, too. -/
theorem mem_blocks_left {format : Format σ} {levels number : Nat} (stream : Stream format levels)
    (foreign : number ∉ format.numbers) (blocks : List Nat) :
    number ∈ blocks ++ format.blocks ↔ number ∈ blocks := by
  rw [List.mem_append, or_iff_left]
  exact fun theirs => foreign (stream.blocks number theirs)

theorem mem_blocks_right {format : Format σ} {levels number : Nat} (stream : Stream format levels)
    (foreign : number ∉ format.numbers) (blocks : List Nat) :
    number ∈ format.blocks ++ blocks ↔ number ∈ blocks := by
  rw [List.mem_append, or_iff_right]
  exact fun theirs => foreign (stream.blocks number theirs)

def both {first : Format α} {second : Format β} {levels : Nat} (stream : Stream first levels)
    (stream' : Stream second levels)
    (apart : ∀ number ∈ first.numbers, number ∉ second.numbers := by decide) :
    Stream (first.both second) levels where
  take depth key value bs :=
    if key.number ∈ first.numbers then
      (stream.take depth key value.1 bs).map fun pair => ((pair.1, value.2), pair.2)
    else (stream'.take depth key value.2 bs).map fun pair => ((value.1, pair.1), pair.2)
  take_eq {depth key} deep known value bs := by
    split
    · next ours =>
      have own := stream'.mem_blocks_left (apart _ ours) first.blocks
      rw [stream.take_eq deep ours]
      exact (acceptAfter_map (·, value.2) own
        (fun record number => accept_both_first (number ▸ ours) depth value) bs).symm
    · next foreign =>
      have theirs : key.number ∈ second.numbers := by
        rw [both_numbers, List.mem_append] at known
        exact known.resolve_left foreign
      have own := stream.mem_blocks_right foreign second.blocks
      rw [stream'.take_eq deep theirs]
      exact (acceptAfter_map (value.1, ·) own
        (fun record number => accept_both_second (number ▸ foreign) depth value) bs).symm
  blocks number member := by
    rw [both_numbers, List.mem_append]
    exact (List.mem_append.mp member).imp (stream.blocks number) (stream'.blocks number)

def structured {format : Format α} {make : α → σ} {parts : σ → α} {levels : Nat}
    (stream : Stream format levels) : Stream (format.structured make parts) levels :=
  stream.through parts (fun _ => make) rfl rfl fun _ _ _ => rfl

/-! Alternatives -/

def alternative {format : Format α} {wrap : α → ν} {unwrap : ν → Option α} {levels : Nat}
    (stream : Stream format levels) : Stream (format.alternative wrap unwrap) levels :=
  stream.through (fun value => (value >>= unwrap).getD format.empty) (fun _ x => some (wrap x)) rfl
    rfl fun _ _ _ => rfl

def choiceNil {levels : Nat} : Stream (choice ([] : List (Format (Option ν)))) levels where
  take _ _ _ _ := none
  take_eq _ known := nomatch known
  blocks _ member := nomatch member

theorem numbers_choice_cons (format : Format (Option ν)) (formats : List (Format (Option ν))) :
    (choice (format :: formats)).numbers = format.numbers ++ (choice formats).numbers := by
  rw [choice_numbers, choice_numbers, List.flatMap_cons]

theorem blocks_choice_cons (format : Format (Option ν)) (formats : List (Format (Option ν))) :
    (choice (format :: formats)).blocks = format.blocks ++ (choice formats).blocks :=
  List.flatMap_cons

theorem accept_choice_cons (format : Format (Option ν)) (formats : List (Format (Option ν)))
    (depth : Nat) (record : Record) (value : Option ν) :
    (choice (format :: formats)).accept depth record value =
      if record.number ∈ format.numbers then format.accept depth record value
      else (choice formats).accept depth record value := by
  simp only [choice, List.find?_cons]
  by_cases ours : record.number ∈ format.numbers
  · simp [ours]
  · simp [ours]

def choiceCons {format : Format (Option ν)} {formats : List (Format (Option ν))} {levels : Nat}
    (stream : Stream format levels) (later : Stream (choice formats) levels)
    (apart : ∀ number ∈ format.numbers, number ∉ (choice formats).numbers := by decide) :
    Stream (choice (format :: formats)) levels where
  take depth key value bs :=
    if key.number ∈ format.numbers then stream.take depth key value bs
    else later.take depth key value bs
  take_eq {depth key} deep known value bs := by
    split
    · next ours =>
      have own := later.mem_blocks_left (apart _ ours) format.blocks
      rw [← blocks_choice_cons] at own
      rw [stream.take_eq deep ours]
      refine (acceptAfter_congr own (fun record number => ?_) bs).symm
      rw [accept_choice_cons, if_pos (number ▸ ours)]
    · next foreign =>
      have theirs : key.number ∈ (choice formats).numbers := by
        rw [numbers_choice_cons, List.mem_append] at known
        exact known.resolve_left foreign
      have own := stream.mem_blocks_right foreign (choice formats).blocks
      rw [← blocks_choice_cons] at own
      rw [later.take_eq deep theirs]
      refine (acceptAfter_congr own (fun record number => ?_) bs).symm
      rw [accept_choice_cons, if_neg (number ▸ foreign)]
  blocks number member := by
    rw [numbers_choice_cons, List.mem_append]
    rw [blocks_choice_cons, List.mem_append] at member
    exact member.imp (stream.blocks number) (later.blocks number)

/-! Maps -/

def binding {number levels : Nat} {value : Format α} {unset : α → Bool}
    (stream : Stream value levels) : Stream (Format.binding number value unset) (levels + 2) :=
  message (both (omitting (scalar Scalar.text_strict)) (omitting (message stream))
    (binding_apart value unset))

/-- Entries are taken for blocks whatever wire type their key gives. -/
def map {number levels : Nat} {value : Format α} {unset : α → Bool} (stream : Stream value levels) :
    Stream (Format.map number value unset) (levels + 2) where
  take depth key bindings bs :=
    (take (binding stream) depth ⟨key.number, .block⟩ (Format.binding number value unset).empty
      bs).map fun pair => (bindings.insert pair.1.1 pair.1.2, pair.2)
  take_eq {depth key} deep known bindings bs := by
    have group : ∀ depth n pair,
        (Format.binding number value unset).accept depth (.group n) pair = none := by
      intro depth n pair
      cases depth <;> rfl
    have member : key.number ∈ (Format.map number value unset).blocks := known
    have entry : (⟨key.number, .block⟩ : Key).number ∈
        (Format.binding number value unset).numbers :=
      known
    rw [take_eq (binding stream) deep entry, acceptAfter_single rfl group, acceptAfter,
      Bytes.takeUp, Record.readAfter_block member]
    cases Payload.read .block bs with
    | none => rfl
    | some pair =>
      change Option.map _ (Option.map _ _) = Option.map _ (_ >>= _)
      cases (Format.binding number value unset).accept depth (.data key.number pair.1)
        (Format.binding number value unset).empty <;> rfl
  blocks _ member := member

end Stream
end Format
end Wire
end NodeLowering
