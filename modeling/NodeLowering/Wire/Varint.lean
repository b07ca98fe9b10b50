import NodeLowering.Bytes

/-! Numbers of up to 64 bits in groups of seven bits, the lowest group first. Every byte but the
last has its high bit set. A number may be written in more bytes than it needs, up to ten. -/
namespace NodeLowering.Wire.Varint

/-- The bytes of `n`, of which at most `more` are followed by another. -/
def spell : (more : Nat) → Nat → Bytes
  | 0, n => [UInt8.ofNat n]
  | more + 1, n =>
      if n < 128 then [UInt8.ofNat n] else UInt8.ofNat (n % 128 + 128) :: spell more (n / 128)

/-- The shortest spelling. -/
def write (value : UInt64) : Bytes := spell 9 value.toNat

/-- Reads a number of at most `limit` bytes. The last byte that the limit allows may be at most 1,
since the groups before it hold 63 of the 64 bits. -/
def readUpTo : (limit : Nat) → Bytes → Option (Nat × Bytes)
  | 0, _ => none
  | _ + 1, [] => none
  | limit + 1, b :: bs =>
      if b < 128 then
        if limit = 0 ∧ 1 < b then none else some (b.toNat, bs)
      else (readUpTo limit bs).map fun (n, rest) => (b.toNat - 128 + 128 * n, rest)

def read (bs : Bytes) : Option (UInt64 × Bytes) :=
  (readUpTo 10 bs).map fun (n, rest) => (UInt64.ofNat n, rest)

/-- The number of bytes of the shortest spelling: one for each seven bits begun. -/
def size (value : UInt64) : Nat := value.toNat.log2 / 7 + 1

/-- One more than the largest number with a spelling of `more` further bytes. -/
def capacity : (more : Nat) → Nat
  | 0 => 2
  | more + 1 => 128 * capacity more

theorem readUpTo_spell (more n : Nat) (fits : n < capacity more) (rest : Bytes) :
    readUpTo (more + 1) (spell more n ++ rest) = some (n, rest) := by
  induction more generalizing n with
  | zero =>
    have bits : n = 0 ∨ n = 1 := by
      simp only [capacity] at fits
      omega
    rcases bits with rfl | rfl <;> rfl
  | succ more ih =>
    rw [spell]
    split
    · next small =>
      have byte : (UInt8.ofNat n).toNat = n := by simp; omega
      have low : UInt8.ofNat n < 128 := by simp [UInt8.lt_iff_toNat_lt]; omega
      simp [readUpTo, low, byte]
    · next large =>
      have byte : (UInt8.ofNat (n % 128 + 128)).toNat = n % 128 + 128 := by simp; omega
      have high : ¬ UInt8.ofNat (n % 128 + 128) < 128 := by
        simp [UInt8.lt_iff_toNat_lt]; omega
      have later := ih (n / 128) (by rw [capacity] at fits; omega)
      simp only [List.cons_append, readUpTo, high, if_false, later, Option.map_some, byte]
      simp only [Option.some.injEq, Prod.mk.injEq, and_true]
      omega

theorem read_write (value : UInt64) (rest : Bytes) :
    read (write value ++ rest) = some (value, rest) := by
  have small := value.toNat_lt
  rw [read, write, readUpTo_spell 9 value.toNat (by simp only [capacity]; omega)]
  simp

theorem log2_div (n : Nat) (large : 128 ≤ n) : n.log2 = (n / 128).log2 + 7 := by
  have low := @Nat.log2_self_le (n / 128) (by omega)
  have high := @Nat.lt_log2_self (n / 128)
  refine (Nat.log2_eq_iff (by omega)).mpr ⟨?_, ?_⟩
  · rw [Nat.pow_add]; omega
  · rw [Nat.pow_succ] at high
    rw [Nat.pow_succ, Nat.pow_add]; omega

theorem length_spell (more n : Nat) (fits : n < capacity more) :
    (spell more n).length = n.log2 / 7 + 1 := by
  induction more generalizing n with
  | zero =>
    have bits : n = 0 ∨ n = 1 := by
      simp only [capacity] at fits
      omega
    rcases bits with rfl | rfl <;> decide
  | succ more ih =>
    rw [spell]
    split
    · next small =>
      by_cases none : n = 0
      · subst none; decide
      · have := (Nat.log2_lt none).mpr (show n < 2 ^ 7 by omega)
        simp; omega
    · next large =>
      rw [List.length_cons, ih (n / 128) (by rw [capacity] at fits; omega),
        log2_div n (by omega)]
      omega

theorem length_write (value : UInt64) : (write value).length = size value :=
  length_spell 9 value.toNat (by have := value.toNat_lt; simp only [capacity]; omega)

end NodeLowering.Wire.Varint
