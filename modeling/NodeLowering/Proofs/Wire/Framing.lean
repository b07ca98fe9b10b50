import NodeLowering.Proofs.Wire.Faithful

/-! Writing in one pass. A writer that goes through a message once announces the length of a block
before it writes the block, and takes the length from the size that the format computes for the
value. What it writes is the encoding all the same, and every announced length is that of its block.
-/
namespace NodeLowering.Wire

/-! Sizes of keys and payloads -/

theorem Varint.log2_small {n : Nat} (small : n < 128) : n.log2 / 7 = 0 := by
  by_cases none : n = 0
  · subst none
    rfl
  · have bits : n.log2 < 7 := (Nat.log2_lt none).mpr (by omega)
    omega

/-- The three lowest bits of a key do not add to its groups of seven bits. -/
theorem Key.log2_code (number : Nat) {code : Nat} (small : code < 8) :
    (8 * number + code).log2 / 7 = (8 * number).log2 / 7 := by
  by_cases short : 8 * number < 128
  · rw [Varint.log2_small (by omega), Varint.log2_small short]
  · have later : (8 * number + code) / 128 = 8 * number / 128 := by omega
    rw [Varint.log2_div _ (by omega), Varint.log2_div (8 * number) (by omega), later]

theorem Key.length_write (key : Key) : key.write.length = Key.size key.number := by
  have small := key.wire.code_lt
  -- Numbers beyond 64 bits lose whole multiples of eight, so that the wire type stays apart.
  have wrapped : ∃ number, 8 * key.number % 18446744073709551616 = 8 * number ∧
      (8 * key.number + key.wire.code) % 18446744073709551616 = 8 * number + key.wire.code :=
    ⟨key.number % 2305843009213693952, by omega, by omega⟩
  obtain ⟨number, bare, coded⟩ := wrapped
  rw [write, Varint.length_write, size, Varint.size, Varint.size, UInt64.toNat_ofNat',
    UInt64.toNat_ofNat']
  change ((8 * key.number + key.wire.code) % 18446744073709551616).log2 / 7 + 1 =
    (8 * key.number % 18446744073709551616).log2 / 7 + 1
  rw [bare, coded, Key.log2_code number (by omega)]

theorem Record.length_write (number : Nat) (payload : Payload) :
    (Record.data number payload).write.length = Key.size number + payload.write.length := by
  rw [write, List.length_append, Key.length_write]

theorem Payload.length_block (content : Bytes) :
    (block content).write.length = blockSize content.length := by
  rw [write, List.length_append, Varint.length_write, blockSize]

/-- The size of a value is the number of bytes of its payload. -/
def Scalar.Sized {α : Type} (s : Scalar α) : Prop := ∀ x, (s.toPayload x).write.length = s.size x

namespace Scalar

theorem int64_sized : int64.Sized := fun x => Varint.length_write x.toUInt64

theorem int32_sized : int32.Sized := fun x => Varint.length_write x.toInt64.toUInt64

theorem bool_sized : bool.Sized := fun b => by cases b <;> decide

theorem float_sized : float.Sized := fun x => Bytes.length_ofNat 4 x.bits.toNat

theorem double_sized : double.Sized := fun x => Bytes.length_ofNat 8 x.bits.toNat

theorem bytes_sized : bytes.Sized := Payload.length_block

theorem text_sized : text.Sized := fun s => Payload.length_block (Utf8.bytes s)

end Scalar

/-! Outlines -/

/-- Bytes to be written, in which blocks and the lengths announced for them are told apart. -/
inductive Outline where
  | plain (bytes : Bytes)
  | block (announced : Nat) (content : Outline)
  | append (first second : Outline)

namespace Outline

def write : Outline → Bytes
  | plain bytes => bytes
  | block announced content => Varint.write (UInt64.ofNat announced) ++ content.write
  | append first second => first.write ++ second.write

/-- At every level, what is announced for a block is the number of its bytes. -/
def Exact : Outline → Prop
  | plain _ => True
  | block announced content => announced = content.write.length ∧ content.Exact
  | append first second => first.Exact ∧ second.Exact

def join (outlines : List Outline) : Outline := outlines.foldr append (plain [])

/-- The record of a field that holds a block. -/
def field (number announced : Nat) (content : Outline) : Outline :=
  append (plain (Key.write ⟨number, .block⟩)) (block announced content)

theorem write_field {number announced : Nat} {content : Outline}
    (exact : announced = content.write.length) :
    (field number announced content).write =
      Record.write (.data number (.block content.write)) := by
  subst exact
  rfl

theorem exact_field {number announced : Nat} {content : Outline}
    (exact : announced = content.write.length) (inside : content.Exact) :
    (field number announced content).Exact :=
  ⟨trivial, exact, inside⟩

/-- At every level, a reader that goes by the length before a block takes the block and leaves what
follows it. -/
def Readable : Outline → Prop
  | plain _ => True
  | block announced content =>
      (∀ rest, Payload.read .block ((block announced content).write ++ rest) =
        some (.block content.write, rest)) ∧ content.Readable
  | append first second => first.Readable ∧ second.Readable

/-- Lengths that are exact are of use to a reader as long as they are numbers of 64 bits. -/
theorem Exact.readable {outline : Outline} (exact : outline.Exact)
    (fits : outline.write.length < 18446744073709551616) : outline.Readable := by
  induction outline with
  | plain bytes => trivial
  | block announced content ih =>
    obtain ⟨rfl, inside⟩ := exact
    rw [write, List.length_append] at fits
    have short : content.write.length < 18446744073709551616 := by omega
    exact ⟨@Payload.read_write (.block content.write) short, ih inside short⟩
  | append first second ih ih' =>
    rw [write, List.length_append] at fits
    constructor
    · apply ih exact.1
      omega
    · apply ih' exact.2
      omega

end Outline

namespace Payload

def outline : Payload → Outline
  | block content => .block content.length (.plain content)
  | payload => .plain payload.write

theorem write_outline (payload : Payload) : payload.outline.write = payload.write := by
  cases payload <;> rfl

theorem exact_outline (payload : Payload) : payload.outline.Exact := by
  cases payload with
  | block content => exact ⟨rfl, trivial⟩
  | _ => trivial

end Payload

namespace Format
variable {α β σ ν : Type}

/-- How values are written in one pass: the outline that is written for a value has the lengths of
blocks from the sizes that formats compute. -/
structure Framing (format : Format σ) where
  outline : σ → Outline
  written : ∀ value, (outline value).write = format.encode value
  exact : ∀ value, (outline value).Exact
  sized : ∀ value, (format.encode value).length = format.size value

namespace Framing

theorem length_write {format : Format σ} (framing : Framing format) (value : σ) :
    (framing.outline value).write.length = format.size value := by
  rw [framing.written, framing.sized]

theorem encode_single {format : Format σ} {value : σ} {record : Record}
    (written : format.records value = [record]) : format.encode value = record.write := by
  rw [encode, written, List.flatMap_singleton]

/-! One value -/

def scalar {number : Nat} {s : Scalar α} (sized : s.Sized) : Framing (Format.scalar number s) where
  outline x := .append (.plain (Key.write ⟨number, (s.toPayload x).wire⟩)) (s.toPayload x).outline
  written x := by
    rw [encode_single rfl, Outline.write, Payload.write_outline]
    rfl
  exact x := ⟨trivial, (s.toPayload x).exact_outline⟩
  sized x := by
    rw [encode_single rfl, Record.length_write, sized]
    rfl

def message {number : Nat} {format : Format α} (framing : Framing format) :
    Framing (Format.message number format) where
  outline value := .field number (format.size value) (framing.outline value)
  written value := by
    rw [encode_single rfl, Outline.write_field (framing.length_write value).symm, framing.written]
  exact value := Outline.exact_field (framing.length_write value).symm (framing.exact value)
  sized value := by
    rw [encode_single rfl, Record.length_write, Payload.length_block, framing.sized]
    rfl

def optional {format : Format α} (framing : Framing format) : Framing format.optional where
  outline value := value.elim (.plain []) framing.outline
  written value := by
    cases value with
    | none => rfl
    | some value => exact framing.written value
  exact value := by
    cases value with
    | none => trivial
    | some value => exact framing.exact value
  sized value := by
    cases value with
    | none => rfl
    | some value => exact framing.sized value

theorem encode_omitting (format : Format α) (unset : α → Bool) (value : α) :
    (format.omitting unset).encode value = if unset value then [] else format.encode value := by
  simp only [encode, Format.omitting]
  split <;> rfl

def omitting {format : Format α} {unset : α → Bool} (framing : Framing format) :
    Framing (format.omitting unset) where
  outline value := if unset value then .plain [] else framing.outline value
  written value := by
    rw [encode_omitting]
    split
    · rfl
    · exact framing.written value
  exact value := by
    split
    · trivial
    · exact framing.exact value
  sized value := by
    rw [encode_omitting]
    change _ = if unset value then 0 else format.size value
    split
    · rfl
    · exact framing.sized value

/-! Lists -/

theorem encode_repeated (format : Format α) (values : List α) :
    format.repeated.encode values = values.flatMap format.encode :=
  List.flatMap_assoc

def repeated {format : Format α} (framing : Framing format) : Framing format.repeated where
  outline values := .join (values.map framing.outline)
  written values := by
    rw [encode_repeated]
    induction values with
    | nil => rfl
    | cons value values ih =>
      rw [List.flatMap_cons, ← ih, ← framing.written]
      rfl
  exact values := by
    induction values with
    | nil => trivial
    | cons value values ih => exact ⟨framing.exact value, ih⟩
  sized values := by
    rw [encode_repeated]
    induction values with
    | nil => rfl
    | cons value values ih =>
      rw [List.flatMap_cons, List.length_append, ih, framing.sized]
      rfl

/-- The values of a packed block, one after the other. -/
def items (s : Scalar α) (values : List α) : Bytes :=
  values.flatMap fun value => (s.toPayload value).write

theorem length_items {s : Scalar α} (sized : s.Sized) (values : List α) :
    (items s values).length = total s.size values := by
  induction values with
  | nil => rfl
  | cons value values ih =>
    rw [items] at ih ⊢
    rw [List.flatMap_cons, List.length_append, sized, ih]
    rfl

def packed {number : Nat} {s : Scalar α} (sized : s.Sized) : Framing (Format.packed number s) where
  outline values :=
    if values.isEmpty then .plain []
    else .field number (total s.size values) (.plain (items s values))
  written values := by
    cases values with
    | nil => rfl
    | cons value values =>
      have length := (length_items sized (value :: values)).symm
      exact (Outline.write_field length).trans (encode_single rfl).symm
  exact values := by
    cases values with
    | nil => trivial
    | cons value values =>
      exact Outline.exact_field (length_items sized (value :: values)).symm trivial
  sized values := by
    cases values with
    | nil => rfl
    | cons value values =>
      have length := length_items sized (value :: values)
      rw [items] at length
      rw [encode_single rfl, Record.length_write, Payload.length_block, length]
      rfl

/-! Several fields -/

theorem encode_both (first : Format α) (second : Format β) (value : α × β) :
    (first.both second).encode value = first.encode value.1 ++ second.encode value.2 :=
  List.flatMap_append

def both {first : Format α} {second : Format β} (framing : Framing first)
    (framing' : Framing second) : Framing (first.both second) where
  outline value := .append (framing.outline value.1) (framing'.outline value.2)
  written value := by rw [encode_both, Outline.write, framing.written, framing'.written]
  exact value := ⟨framing.exact value.1, framing'.exact value.2⟩
  sized value := by
    rw [encode_both, List.length_append, framing.sized, framing'.sized]
    rfl

def structured {format : Format α} {make : α → σ} {parts : σ → α} (framing : Framing format) :
    Framing (format.structured make parts) where
  outline value := framing.outline (parts value)
  written value := framing.written (parts value)
  exact value := framing.exact (parts value)
  sized value := framing.sized (parts value)

/-! Alternatives -/

def alternative {format : Format α} {wrap : α → ν} {unwrap : ν → Option α}
    (framing : Framing format) : Framing (format.alternative wrap unwrap) where
  outline value := framing.optional.outline (value >>= unwrap)
  written value := framing.optional.written (value >>= unwrap)
  exact value := framing.optional.exact (value >>= unwrap)
  sized value := framing.optional.sized (value >>= unwrap)

def choiceNil : Framing (choice ([] : List (Format (Option ν)))) where
  outline _ := .plain []
  written _ := rfl
  exact _ := trivial
  sized _ := rfl

theorem encode_choice_cons (format : Format (Option ν)) (formats : List (Format (Option ν)))
    (value : Option ν) :
    (choice (format :: formats)).encode value =
      format.encode value ++ (choice formats).encode value := by
  simp only [encode, choice, List.flatMap_cons, List.flatMap_append]

def choiceCons {format : Format (Option ν)} {formats : List (Format (Option ν))}
    (framing : Framing format) (later : Framing (choice formats)) :
    Framing (choice (format :: formats)) where
  outline value := .append (framing.outline value) (later.outline value)
  written value := by rw [encode_choice_cons, Outline.write, framing.written, later.written]
  exact value := ⟨framing.exact value, later.exact value⟩
  sized value := by
    rw [encode_choice_cons, List.length_append, framing.sized, later.sized]
    rfl

/-! Maps -/

def binding {number : Nat} {value : Format α} {unset : α → Bool} (framing : Framing value) :
    Framing (Format.binding number value unset) :=
  message (both (omitting (scalar Scalar.text_sized)) (omitting (message framing)))

def map {number : Nat} {value : Format α} {unset : α → Bool} (framing : Framing value) :
    Framing (Format.map number value unset) where
  outline bindings := framing.binding.repeated.outline bindings.toList
  written bindings := framing.binding.repeated.written bindings.toList
  exact bindings := framing.binding.repeated.exact bindings.toList
  sized bindings := framing.binding.repeated.sized bindings.toList

end Framing
end Format
end NodeLowering.Wire
