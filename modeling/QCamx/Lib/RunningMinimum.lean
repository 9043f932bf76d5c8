import Mathlib

/-!
# A scan that keeps the last minimum

A loop over the indices below `m` that keeps the least key seen so far and the index it came from.
A key equal to the one kept replaces it, and no key above the bound `top` is taken.

* `keep`, `scan`: one round, and the loop;
* `IsLastMin`: the last index of least key among the eligible ones;
* **`scan_eq_some_iff`**, **`scan_eq_none_iff`**: what the scan returns.
-/

namespace RunningMinimum

variable {α : Type*} [LinearOrder α] (key : ℕ → α) (p : ℕ → Prop)

/-- Index `j` is eligible, and the last one of least key below `m`. -/
structure IsLastMin (m j : ℕ) : Prop where
  lt : j < m
  mem : p j
  le : ∀ i < m, p i → key j ≤ key i
  lt_of_lt : ∀ i < m, j < i → p i → key j < key i

theorem IsLastMin.unique {key : ℕ → α} {p : ℕ → Prop} {m j k : ℕ} (hj : IsLastMin key p m j)
    (hk : IsLastMin key p m k) : j = k := by
  rcases lt_trichotomy j k with h | h | h
  · exact absurd (hk.le j hj.lt hj.mem) (not_le_of_gt (hj.lt_of_lt k hk.lt h hk.mem))
  · exact h
  · exact absurd (hj.le k hk.lt hk.mem) (not_le_of_gt (hk.lt_of_lt j hj.lt h hj.mem))

variable [DecidablePred p]

/-- One round: an eligible index whose key is at most the one kept is kept instead. -/
def keep (best : α × Option ℕ) (i : ℕ) : α × Option ℕ :=
  if p i ∧ key i ≤ best.1 then (key i, some i) else best

/-- The loop over the indices below `m`. -/
def scan (top : α) (m : ℕ) : α × Option ℕ := (List.range m).foldl (keep key p) (top, none)

theorem scan_succ (top : α) (m : ℕ) :
    scan key p top (m + 1) = keep key p (scan key p top m) m := by
  simp [scan, List.range_succ, List.foldl_append]

/-- What the scan holds after `m` rounds: the bound if nothing was eligible, else the last
minimum and its key. -/
inductive Scanned (top : α) (m : ℕ) : α × Option ℕ → Prop
  | none (h : ∀ i < m, p i → ¬ key i ≤ top) : Scanned top m (top, none)
  | some (j : ℕ) (h : IsLastMin key (fun i => p i ∧ key i ≤ top) m j) :
      Scanned top m (key j, some j)

theorem Scanned.keep {key : ℕ → α} {p : ℕ → Prop} [DecidablePred p] {top : α} {m : ℕ}
    {best : α × Option ℕ} (h : Scanned key p top m best) :
    Scanned key p top (m + 1) (keep key p best m) := by
  cases h with
  | none h =>
      by_cases hm : p m ∧ key m ≤ top
      · rw [RunningMinimum.keep, if_pos hm]
        refine .some m ⟨Nat.lt_succ_self m, hm, fun i hi hp => ?_, fun i hi hlt _ => ?_⟩
        · rcases Nat.lt_succ_iff_lt_or_eq.mp hi with hi | rfl
          · exact absurd hp.2 (h i hi hp.1)
          · exact le_rfl
        · exact absurd hlt (by omega)
      · rw [RunningMinimum.keep, if_neg hm]
        refine .none fun i hi hp hle => ?_
        rcases Nat.lt_succ_iff_lt_or_eq.mp hi with hi | rfl
        · exact h i hi hp hle
        · exact hm ⟨hp, hle⟩
  | some j h =>
      by_cases hm : p m ∧ key m ≤ key j
      · rw [RunningMinimum.keep, if_pos hm]
        have htop : key m ≤ top := hm.2.trans h.mem.2
        refine .some m ⟨Nat.lt_succ_self m, ⟨hm.1, htop⟩, fun i hi hp => ?_, fun i hi hlt _ => ?_⟩
        · rcases Nat.lt_succ_iff_lt_or_eq.mp hi with hi | rfl
          · exact hm.2.trans (h.le i hi hp)
          · exact le_rfl
        · exact absurd hlt (by omega)
      · rw [RunningMinimum.keep, if_neg hm]
        have hlt : p m → key j < key m := fun hp => lt_of_not_ge fun hle => hm ⟨hp, hle⟩
        refine .some j ⟨h.lt.trans (Nat.lt_succ_self m), h.mem, fun i hi hp => ?_,
          fun i hi hji hp => ?_⟩
        · rcases Nat.lt_succ_iff_lt_or_eq.mp hi with hi | rfl
          · exact h.le i hi hp
          · exact (hlt hp.1).le
        · rcases Nat.lt_succ_iff_lt_or_eq.mp hi with hi | rfl
          · exact h.lt_of_lt i hi hji hp
          · exact hlt hp.1

theorem scanned_scan (top : α) (m : ℕ) : Scanned key p top m (scan key p top m) := by
  induction m with
  | zero => exact .none fun i hi => absurd hi (Nat.not_lt_zero i)
  | succ m ih =>
      rw [scan_succ]
      exact ih.keep

/-- **The scan ends with the last minimum.** -/
theorem scan_eq_some_iff {top : α} {m j : ℕ} :
    (scan key p top m).2 = some j ↔ IsLastMin key (fun i => p i ∧ key i ≤ top) m j := by
  have h := scanned_scan key p top m
  generalize scan key p top m = best at h
  cases h with
  | none h =>
      have hno : ¬ IsLastMin key (fun i => p i ∧ key i ≤ top) m j := by
        intro hj
        exact h j hj.lt hj.mem.1 hj.mem.2
      simpa using hno
  | some k h =>
      rw [Option.some_inj]
      constructor
      · rintro rfl
        exact h
      · exact h.unique

/-- **The scan finds nothing when no key is eligible.** -/
theorem scan_eq_none_iff {top : α} {m : ℕ} :
    (scan key p top m).2 = none ↔ ∀ i < m, p i → ¬ key i ≤ top := by
  have h := scanned_scan key p top m
  generalize scan key p top m = best at h
  cases h with
  | none h => simpa using h
  | some k h =>
      have hno : ¬ ∀ i < m, p i → ¬ key i ≤ top := by
        intro hn
        exact hn k h.lt h.mem.1 h.mem.2
      simpa using hno

end RunningMinimum
