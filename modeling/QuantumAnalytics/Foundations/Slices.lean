import Mathlib.Data.List.Basic

/-!
# Slices of a list

A slice is cut out between two positions. Slices that meet are joined to one, and a
slice of a slice is a slice.
-/

namespace QuantumAnalytics

variable {α : Type}

/-- The elements between two positions. -/
def slice (values : List α) (start stop : Nat) : List α :=
  (values.drop start).take (stop - start)

namespace Slices

variable {values : List α} {start middle stop : Nat}

theorem length_slice (fits : stop ≤ values.length) :
    (slice values start stop).length = stop - start := by
  rw [slice, List.length_take, List.length_drop]
  omega

theorem length_slice_le : (slice values start stop).length ≤ stop - start := by
  rw [slice, List.length_take]
  omega

@[simp] theorem slice_self (values : List α) (start : Nat) : slice values start start = [] := by
  rw [slice, Nat.sub_self, List.take_zero]

theorem slice_length (values : List α) : slice values 0 values.length = values := by
  rw [slice, List.drop_zero, Nat.sub_zero, List.take_length]

/-- Slices that meet are joined. -/
theorem slice_append
    (first : start ≤ middle)
    (second : middle ≤ stop) :
    slice values start middle ++ slice values middle stop = slice values start stop := by
  have length : stop - start = (middle - start) + (stop - middle) := by omega
  rw [slice, slice, slice, length, List.take_add, List.drop_drop, Nat.add_sub_cancel' first]

theorem slice_slice
    {first last : Nat}
    (inside : start + last ≤ stop) :
    slice (slice values start stop) first last = slice values (start + first) (start + last) := by
  rw [slice, slice, slice, List.drop_take, List.take_take, List.drop_drop,
    Nat.add_sub_add_left, Nat.min_eq_left (by omega)]

end Slices

/-- A number that is written with its lowest byte first. -/
def littleEndian (bytes : List UInt8) : Nat :=
  bytes.foldr (fun byte rest => byte.toNat + 256 * rest) 0

end QuantumAnalytics
