import Mathlib

/-!
# Counted loops that may not come to their end

`for (i = 0; i < n; i++)` over a state, with a body that may fail.

* `loop`, `loop_succ`;
* **`exists_loop`**: a body that gets from every stage to the next gets to the last;
* **`loop_invariant`**: what every round that succeeds keeps holds at the end.
-/

namespace CountedLoop

variable {σ : Type} {body : σ → ℕ → Option σ} {n : ℕ} {s t : σ}

def loop (body : σ → ℕ → Option σ) (n : ℕ) (s : σ) : Option σ := (List.range n).foldlM body s

theorem loop_succ : loop body (n + 1) s = (loop body n s).bind fun t => body t n := by
  rw [loop, List.range_succ, List.foldlM_append]
  congr 1
  funext t
  simp

theorem loop_succ_eq_some_iff {u : σ} :
    loop body (n + 1) s = some u ↔ ∃ t, loop body n s = some t ∧ body t n = some u := by
  rw [loop_succ, Option.bind_eq_some_iff]

/-- **Total rule**: every round succeeds and leads to the next stage. -/
theorem exists_loop (stage : ℕ → σ → Prop) (h₀ : stage 0 s)
    (hbody : ∀ i < n, ∀ t, stage i t → ∃ u, body t i = some u ∧ stage (i + 1) u) :
    ∃ t, loop body n s = some t ∧ stage n t := by
  induction n with
  | zero => exact ⟨s, rfl, h₀⟩
  | succ n ih =>
      obtain ⟨t, ht, hstage⟩ := ih fun i hi => hbody i (by omega)
      obtain ⟨u, hu, hstage'⟩ := hbody n (by omega) t hstage
      exact ⟨u, loop_succ_eq_some_iff.mpr ⟨t, ht, hu⟩, hstage'⟩

/-- **Partial rule**: every round that succeeds leads to the next stage. -/
theorem loop_invariant (stage : ℕ → σ → Prop) (h : loop body n s = some t) (h₀ : stage 0 s)
    (hbody : ∀ i < n, ∀ t u, stage i t → body t i = some u → stage (i + 1) u) : stage n t := by
  induction n generalizing t with
  | zero =>
      obtain rfl := Option.some.inj h
      exact h₀
  | succ n ih =>
      obtain ⟨r, hr, ht⟩ := loop_succ_eq_some_iff.mp h
      exact hbody n (by omega) r t (ih hr fun i hi => hbody i (by omega)) ht

end CountedLoop
