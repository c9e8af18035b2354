import Mathlib.Data.UInt

/-!
# Eight-bit counters

A counter that is only decremented while it is not zero counts like a natural
number. These are the facts the counters of an interrupt handler are read with.
-/

namespace Reactive

namespace Counter

variable {count bound other : UInt8}

theorem toNat_eq_zero : count.toNat = 0 ↔ count = 0 := by
  simp [← UInt8.toNat_inj]

theorem toNat_eq_one : count.toNat = 1 ↔ count = 1 := by
  simp [← UInt8.toNat_inj]

/-- A bounded counter is none of the values above its bound. -/
theorem ne_of_bound (within : count ≤ bound) (above : bound < other) : count ≠ other :=
  UInt8.ne_of_lt (UInt8.lt_of_le_of_lt within above)

theorem one_le (running : count ≠ 0) : 1 ≤ count := by
  rw [UInt8.le_iff_toNat_le]
  exact Nat.one_le_iff_ne_zero.mpr (mt toNat_eq_zero.mp running)

/-- A decrement of a running counter does not wrap. -/
theorem toNat_pred (running : count ≠ 0) : (count - 1).toNat = count.toNat - 1 :=
  UInt8.toNat_sub_of_le _ _ (one_le running)

theorem pred_eq_zero : count - 1 = 0 ↔ count = 1 := sub_eq_zero

theorem le_one_iff : count ≤ 1 ↔ count = 0 ∨ count = 1 := by
  rw [UInt8.le_iff_toNat_le, ← toNat_eq_zero, ← toNat_eq_one]
  change count.toNat ≤ 1 ↔ _
  omega

/-- A counter with two or more steps left is still running after one. -/
theorem two_le_iff : 2 ≤ count ↔ count ≠ 0 ∧ count ≠ 1 := by
  rw [UInt8.le_iff_toNat_le, Ne, Ne, ← toNat_eq_zero, ← toNat_eq_one]
  change 2 ≤ count.toNat ↔ _
  omega

end Counter

end Reactive
