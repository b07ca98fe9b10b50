/-! The bytes of a string and the order they give. A string is determined by its bytes, so
ordering strings by them is a total order. -/
namespace NodeLowering.Utf8

/-- The UTF-8 bytes of a string. -/
def bytes (s : String) : List UInt8 := s.toUTF8.data.toList

/-- The string whose UTF-8 bytes are `bs`, if there is one. -/
def decode (bs : List UInt8) : Option String := String.fromUTF8? ⟨bs.toArray⟩

theorem bytes_injective {s t : String} (same : bytes s = bytes t) : s = t := by
  have arrays : s.toUTF8.data = t.toUTF8.data := Array.ext' same
  have texts : s.toByteArray = t.toByteArray := ByteArray.ext arrays
  exact String.toByteArray_inj.mp texts

theorem decode_bytes (s : String) : decode (bytes s) = some s := by
  have whole : (⟨(bytes s).toArray⟩ : ByteArray) = s.toByteArray := by
    simp [bytes, String.toUTF8]
  simp only [decode, whole, String.fromUTF8?]
  rw [dif_pos s.isValidUTF8]
  rfl

theorem bytes_of_decode {bs : List UInt8} {s : String} (h : decode bs = some s) :
    bytes s = bs := by
  simp only [decode, String.fromUTF8?] at h
  split at h
  · cases h
    simp [bytes, String.toUTF8, String.fromUTF8]
  · contradiction

/-- A byte string reads as a string exactly when it is that string's bytes. -/
theorem decode_eq_some_iff {bs : List UInt8} {s : String} : decode bs = some s ↔ bs = bytes s :=
  ⟨fun h => (bytes_of_decode h).symm, fun h => h ▸ decode_bytes s⟩

/-- `Before s t`: the bytes of `s` come before those of `t`, compared left to right. -/
def Before (s t : String) : Prop := bytes s < bytes t

instance (s t : String) : Decidable (Before s t) :=
  inferInstanceAs (Decidable (bytes s < bytes t))

theorem Before.irrefl (s : String) : ¬ Before s s := List.lt_irrefl _

theorem Before.trans {s t u : String} (st : Before s t) (tu : Before t u) : Before s u :=
  List.lt_trans st tu

theorem Before.total {s t : String} (different : s ≠ t) (h : ¬ Before s t) : Before t s := by
  rcases List.le_total (bytes s) (bytes t) with le | le
  · exact absurd (bytes_injective (List.le_antisymm le h)) different
  · by_cases back : bytes t < bytes s
    · exact back
    · exact absurd (bytes_injective (List.le_antisymm back h)) different

end NodeLowering.Utf8
