/-! IEEE 754 numbers as their encodings. Propositional equality is identity of encodings, so NaN
payloads and the sign of zero are kept; `equal` is numeric equality. -/
namespace NodeLowering

/-- A 32-bit floating point number. -/
structure Binary32 where
  bits : UInt32
  deriving DecidableEq, Inhabited

/-- A 64-bit floating point number. -/
structure Binary64 where
  bits : UInt64
  deriving DecidableEq, Inhabited

namespace Binary32

def magnitude (x : Binary32) : UInt32 := x.bits &&& 0x7fffffff

/-- Beyond infinity there are only NaNs. -/
def isNaN (x : Binary32) : Bool := 0x7f800000 < x.magnitude

def isZero (x : Binary32) : Bool := x.magnitude == 0

/-- A NaN equals nothing, and the two zeros are equal. -/
def equal (x y : Binary32) : Bool :=
  !x.isNaN && !y.isNaN && (x.bits == y.bits || x.isZero && y.isZero)

theorem isZero_iff (x : Binary32) : x.isZero = true ↔ x = ⟨0⟩ ∨ x = ⟨0x80000000⟩ := by
  obtain ⟨bits⟩ := x
  have small := bits.toNat_lt
  have low : (bits &&& 0x7fffffff).toNat = bits.toNat % 2147483648 := by
    rw [UInt32.toNat_and]
    exact Nat.and_two_pow_sub_one_eq_mod bits.toNat 31
  have zero : (bits &&& 0x7fffffff) = 0 ↔ bits.toNat % 2147483648 = 0 := by
    rw [← low, ← UInt32.toNat_inj]
    rfl
  simp only [isZero, magnitude, beq_iff_eq, zero, Binary32.mk.injEq, ← UInt32.toNat_inj]
  change _ ↔ bits.toNat = 0 ∨ bits.toNat = 2147483648
  omega

end Binary32

namespace Binary64

def magnitude (x : Binary64) : UInt64 := x.bits &&& 0x7fffffffffffffff

/-- Beyond infinity there are only NaNs. -/
def isNaN (x : Binary64) : Bool := 0x7ff0000000000000 < x.magnitude

def isZero (x : Binary64) : Bool := x.magnitude == 0

/-- A NaN equals nothing, and the two zeros are equal. -/
def equal (x y : Binary64) : Bool :=
  !x.isNaN && !y.isNaN && (x.bits == y.bits || x.isZero && y.isZero)

end Binary64
end NodeLowering
