import Mathlib.Tactic.Ring
import Mathlib.Algebra.Order.Ring.Nat

/-!
# Rounding a natural number to a significand

The conversion of an unsigned integer to a binary floating point format whose exponent range it
does not leave: nearest number with `p` significant bits, ties to the even one.

* `roundTo p n`;
* **`roundTo_eq_self`**: a multiple of `2 ^ k` below `2 ^ (p + k)` is not changed.
-/

namespace Significand

/-- The number of low bits of `n` that do not fit into `p` bits. -/
def excess (p n : ℕ) : ℕ := n.log2 + 1 - p

/-- `n` rounded to `p` significant bits, to the nearest and in a tie to the even one. -/
def roundTo (p n : ℕ) : ℕ :=
  let unit := 2 ^ excess p n
  if 2 * (n % unit) < unit ∨ (2 * (n % unit) = unit ∧ n / unit % 2 = 0) then n / unit * unit
  else (n / unit + 1) * unit

variable {p k n : ℕ}

theorem excess_le (hp : 0 < p) (hlt : n < 2 ^ (p + k)) : excess p n ≤ k := by
  rcases Nat.eq_zero_or_pos n with rfl | hn
  · rw [excess, Nat.log2_zero]
    omega
  · have hlog : n.log2 < p + k := (Nat.log2_lt hn.ne').mpr hlt
    rw [excess]
    omega

/-- **A number with few significant bits is not changed.** -/
theorem roundTo_eq_self (hp : 0 < p) (hd : 2 ^ k ∣ n) (hlt : n < 2 ^ (p + k)) :
    roundTo p n = n := by
  have hunit : 2 ^ excess p n ∣ n := (Nat.pow_dvd_pow 2 (excess_le hp hlt)).trans hd
  have hmod : n % 2 ^ excess p n = 0 := Nat.mod_eq_zero_of_dvd hunit
  have hpos : 0 < 2 ^ excess p n := Nat.two_pow_pos _
  rw [roundTo, if_pos (Or.inl (by rwa [hmod]))]
  exact Nat.div_mul_cancel hunit

end Significand
