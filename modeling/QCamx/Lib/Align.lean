import Mathlib.Algebra.Order.Floor.Div
import Mathlib.Tactic.Ring

/-!
# Rounding up to a multiple

* `up n a`: the least multiple of `a` that is at least `n`;
* **`up_eq_ite`**: it is reached by replacing the remainder of `n` by `a`;
* **`le_up_mod_iff`**: a size cut to a machine word and then rounded up to whole pages covers the
  true size exactly when nothing was cut off.
-/

namespace Align

/-- The least multiple of `a` that is at least `n`. -/
def up (n a : ℕ) : ℕ := n ⌈/⌉ a * a

variable {n m a : ℕ}

theorem dvd_up (n a : ℕ) : a ∣ up n a := Dvd.intro_left _ rfl

theorem le_up (n : ℕ) (ha : 0 < a) : n ≤ up n a := by
  have h := (ceilDiv_le_iff_le_mul (b := n) ha).mp le_rfl
  rwa [Nat.mul_comm] at h

theorem up_lt (n : ℕ) (ha : 0 < a) : up n a < n + a := by
  have h : (n + a - 1) / a * a ≤ n + a - 1 := Nat.div_mul_le_self (n + a - 1) a
  rw [up, Nat.ceilDiv_eq_add_pred_div]
  omega

theorem up_le_of_dvd (ha : 0 < a) (h : n ≤ m) (hd : a ∣ m) : up n a ≤ m := by
  obtain ⟨k, rfl⟩ := hd
  have hk : n ⌈/⌉ a ≤ k := (ceilDiv_le_iff_le_mul ha).mpr h
  rw [up, Nat.mul_comm a k]
  exact Nat.mul_le_mul_right a hk

theorem up_eq_self (ha : 0 < a) (hd : a ∣ n) : up n a = n :=
  Nat.le_antisymm (up_le_of_dvd ha le_rfl hd) (le_up n ha)

theorem up_pos (ha : 0 < a) (h : 0 < n) : 0 < up n a := lt_of_lt_of_le h (le_up n ha)

/-- **Rounding up replaces the remainder.** -/
theorem up_eq_ite (n : ℕ) (ha : 0 < a) :
    up n a = if n % a = 0 then n else n - n % a + a := by
  split_ifs with hr
  · exact up_eq_self ha (Nat.dvd_of_mod_eq_zero hr)
  · have hmod : n % a < a := Nat.mod_lt n ha
    have hfloor : a ∣ n - n % a := Nat.dvd_sub_mod n
    apply Nat.le_antisymm
    · exact up_le_of_dvd ha (by omega) (Nat.dvd_add hfloor (dvd_refl a))
    · -- a multiple of `a` that is not below `n` is above `n - n % a`, so at least one `a` further
      obtain ⟨q, hq⟩ := hfloor
      obtain ⟨k, hk⟩ := dvd_up n a
      have hle : n ≤ a * k := hk ▸ le_up n ha
      have hmul : a * q < a * k := by
        have hmodle := Nat.mod_le n a
        omega
      have hlt : q < k := Nat.lt_of_mul_lt_mul_left hmul
      calc n - n % a + a = a * (q + 1) := by rw [hq]; ring
        _ ≤ a * k := Nat.mul_le_mul_left a hlt
        _ = up n a := hk.symm

/-- **Nothing was cut off** of a size that is covered after it was cut to a word of `m` values and
rounded up. -/
theorem le_up_mod_iff (ha : 0 < a) (hm : 0 < m) (hd : a ∣ m) :
    n ≤ up (n % m) a % m ↔ up n a < m := by
  constructor
  · intro h
    have hlt : n < m := lt_of_le_of_lt h (Nat.mod_lt _ hm)
    rw [Nat.mod_eq_of_lt hlt] at h
    rcases Nat.lt_or_eq_of_le (up_le_of_dvd ha hlt.le hd) with hup | hup
    · exact hup
    · rw [hup, Nat.mod_self] at h
      have hzero : n = 0 := Nat.le_zero.mp h
      rw [hzero, up_eq_self ha (dvd_zero a)] at hup
      omega
  · intro h
    have hlt : n < m := lt_of_le_of_lt (le_up n ha) h
    rw [Nat.mod_eq_of_lt hlt, Nat.mod_eq_of_lt h]
    exact le_up n ha

end Align
