import Mathlib.Algebra.GroupWithZero.Nat
import Mathlib.Data.List.Range
import Mathlib.Order.Basic

namespace Library

-- Waits that double after every failure, up to a limit.
structure Backoff where
  first : Nat
  limit : Nat
  fits : first ≤ limit

namespace Backoff

variable (b : Backoff)

def wait (failures : Nat) : Nat := min (b.first * 2 ^ failures) b.limit

-- What a client does that only remembers the wait to come.
def next (delay : Nat) : Nat := min (delay * 2) b.limit

def schedule (failures : Nat) : List Nat := (List.range failures).map b.wait

theorem wait_next (failures : Nat) : b.next (b.wait failures) = b.wait (failures + 1) := by
  unfold next wait
  rw [Nat.pow_succ,← Nat.mul_assoc]
  generalize b.first * 2 ^ failures = delay
  omega

theorem wait_limit (failures : Nat) : b.wait failures ≤ b.limit := Nat.min_le_right _ _

theorem first_wait (failures : Nat) : b.first ≤ b.wait failures := by
  have grown : b.first * 1 ≤ b.first * 2 ^ failures := Nat.mul_le_mul_left _ Nat.one_le_two_pow
  rw [Nat.mul_one] at grown
  exact Nat.le_min.mpr ⟨grown,b.fits⟩

theorem schedule_more (failures : Nat) : b.schedule (failures + 1) = b.schedule failures ++ [b.wait failures] := by
  unfold schedule
  rw [List.range_succ,List.map_append]
  rfl

end Backoff

end Library
