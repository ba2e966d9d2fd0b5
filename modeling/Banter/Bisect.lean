/-!
# Bisection

Counts the leading positions of a sequence that pass a test, where those that pass come before those
that fail. The count is built from its high binary digit down, so it takes one test a digit.
-/

namespace Banter.Bisect

/-- Raises `low` by the largest amount of at most `digits` binary digits whose last position still passes. -/
def climb (test : Nat → Bool) (size : Nat) : (digits low : Nat) → Nat
  | 0, low => low
  | digits + 1, low =>
    if low + 1 <<< digits ≤ size && test (low + 1 <<< digits - 1) then
      climb test size digits (low + 1 <<< digits)
    else
      climb test size digits low

/-- The number of positions below `size` that pass `test`, where those that pass come first. -/
def count (test : Nat → Bool) (size : Nat) : Nat :=
  climb test size (size.log2 + 1) 0

theorem climb_eq {test : Nat → Bool} {size n : Nat} (hn : n ≤ size)
    (htest : ∀ i < size, test i = decide (i < n)) (digits low : Nat)
    (hlow : low ≤ n) (hhigh : n < low + 1 <<< digits) : climb test size digits low = n := by
  induction digits generalizing low with
  | zero =>
    rw [Nat.shiftLeft_zero] at hhigh
    rw [climb]
    omega
  | succ digits ih =>
    have hpos : 0 < 1 <<< digits := by
      rw [Nat.one_shiftLeft]
      exact Nat.two_pow_pos digits
    have hdouble : 1 <<< (digits + 1) = 2 * 1 <<< digits := Nat.shiftLeft_succ 1 digits
    rw [hdouble] at hhigh
    rw [climb]
    split
    next h =>
      simp only [Bool.and_eq_true, decide_eq_true_eq] at h
      have hpass := htest (low + 1 <<< digits - 1) (by omega)
      rw [h.2] at hpass
      have := of_decide_eq_true hpass.symm
      exact ih _ (by omega) (by omega)
    next h =>
      apply ih _ hlow
      simp only [Bool.and_eq_true, decide_eq_true_eq, not_and] at h
      by_cases hsize : low + 1 <<< digits ≤ size
      · have hfail := htest (low + 1 <<< digits - 1) (by omega)
        have hfalse : ¬low + 1 <<< digits - 1 < n := by
          intro hlt
          exact h hsize (by rw [hfail]; exact decide_eq_true hlt)
        omega
      · omega

theorem count_eq {test : Nat → Bool} {size n : Nat} (hn : n ≤ size)
    (htest : ∀ i < size, test i = decide (i < n)) : count test size = n := by
  refine climb_eq hn htest _ 0 (Nat.zero_le n) ?_
  rw [Nat.one_shiftLeft]
  have := Nat.lt_log2_self (n := size)
  omega

end Banter.Bisect
