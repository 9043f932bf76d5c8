import Mathlib

/-!
# Error codes and early returns

A function that returns an error code, `0` for success, and leaves early where a step fails: a
computation in `EStateM` that throws the code it returns. An exit may return `0` too, and then the
caller cannot tell that a step has failed.

* `returned`: the code;
* `check`, `require`: an exit with the code of a step, and one with the code `0`;
* `Reports`: no exit returns `0`;
* **`returned_bind_iff`**, `returned_require_bind_iff`: what a returned `0` says about a sequence.
-/

namespace ErrorCode

variable {ε σ α β : Type} [Zero ε]

/-- The code that a computation returns. -/
def returned (x : EStateM ε σ α) (s : σ) : ε :=
  match x.run s with
  | .ok _ _ => 0
  | .error code _ => code

/-- The state it leaves. -/
def final (x : EStateM ε σ α) (s : σ) : σ :=
  match x.run s with
  | .ok _ s' => s'
  | .error _ s' => s'

/-- Leave with the code of a step that has failed. -/
def check [DecidableEq ε] (code : ε) : EStateM ε σ Unit := if code = 0 then pure () else throw code

/-- Leave with `0` where a condition fails. -/
def require (p : Prop) [Decidable p] : EStateM ε σ Unit := if p then pure () else throw 0

/-- A computation that returns `0` only if it has not left early. -/
def Reports (x : EStateM ε σ α) : Prop := ∀ s, returned x s = 0 → ∃ a s', x.run s = .ok a s'

section Check

variable [DecidableEq ε] {code : ε} {s s' : σ}

theorem run_check_eq_ok_iff {u : Unit} :
    (check code : EStateM ε σ Unit).run s = .ok u s' ↔ code = 0 ∧ s' = s := by
  rw [check]
  split_ifs with hcode
  · rw [EStateM.run_pure, EStateM.Result.ok.injEq]
    exact ⟨fun h => ⟨hcode, h.2.symm⟩, fun h => ⟨rfl, h.2.symm⟩⟩
  · rw [EStateM.run_throw]
    simp [hcode]

theorem returned_check_bind_iff {f : Unit → EStateM ε σ β} :
    returned (check code >>= f) s = 0 ↔ code = 0 ∧ returned (f ()) s = 0 := by
  by_cases hcode : code = 0
  · have heq : returned (check code >>= f) s = returned (f ()) s := by
      rw [returned, check, if_pos hcode]
      rfl
    rw [heq]
    exact ⟨fun h => ⟨hcode, h⟩, fun h => h.2⟩
  · have heq : returned (check code >>= f) s = code := by
      rw [returned, check, if_neg hcode]
      rfl
    rw [heq]
    exact ⟨fun h => absurd h hcode, fun h => h.1⟩

theorem reports_check : Reports (check code : EStateM ε σ Unit) := by
  intro s h
  by_cases hcode : code = 0
  · exact ⟨(), s, run_check_eq_ok_iff.mpr ⟨hcode, rfl⟩⟩
  · rw [returned, check, if_neg hcode, EStateM.run_throw] at h
    exact absurd h hcode

end Check

section Sequence

variable {x : EStateM ε σ α} {f : α → EStateM ε σ β} {s s' : σ}

theorem returned_get_bind {f : σ → EStateM ε σ β} :
    returned (get >>= f) s = returned (f s) s := rfl

theorem returned_modify_bind (g : σ → σ) {f : PUnit → EStateM ε σ β} :
    returned (modify g >>= f) s = returned (f ()) (g s) := rfl

theorem reports_pure (a : α) : Reports (pure a : EStateM ε σ α) := fun s _ => ⟨a, s, rfl⟩

theorem reports_modify (g : σ → σ) : Reports (modify g : EStateM ε σ PUnit) :=
  fun s _ => ⟨_, g s, EStateM.run_modify g s⟩

omit [Zero ε] in
theorem run_bind_eq_ok_iff {b : β} :
    (x >>= f).run s = .ok b s' ↔ ∃ a t, x.run s = .ok a t ∧ (f a).run t = .ok b s' := by
  rw [EStateM.run_bind]
  cases hx : x.run s with
  | ok a t =>
      constructor
      · intro h
        exact ⟨a, t, rfl, h⟩
      · rintro ⟨a', t', heq, h⟩
        cases heq
        exact h
  | error code t =>
      constructor
      · intro h
        cases h
      · rintro ⟨a', t', heq, -⟩
        cases heq

/-- **A sequence that returns `0`** has got through a first part whose exits do not. -/
theorem returned_bind_iff (hx : Reports x) :
    returned (x >>= f) s = 0 ↔ ∃ a t, x.run s = .ok a t ∧ returned (f a) t = 0 := by
  cases hrun : x.run s with
  | ok a t =>
      have heq : returned (x >>= f) s = returned (f a) t := by
        rw [returned, EStateM.run_bind, hrun]
        rfl
      rw [heq]
      constructor
      · intro h
        exact ⟨a, t, rfl, h⟩
      · rintro ⟨a', t', ht, h⟩
        cases ht
        exact h
  | error code t =>
      constructor
      · intro h
        have hzero : returned x s = 0 := by
          rw [returned, EStateM.run_bind, hrun] at h
          rw [returned, hrun]
          exact h
        obtain ⟨a, s', hok⟩ := hx s hzero
        rw [hrun] at hok
        cases hok
      · rintro ⟨a', t', ht, -⟩
        cases ht

theorem Reports.bind (hx : Reports x) (hf : ∀ a, Reports (f a)) : Reports (x >>= f) := by
  intro s h
  obtain ⟨a, t, hrun, hret⟩ := (returned_bind_iff hx).mp h
  obtain ⟨b, s', hok⟩ := hf a t hret
  exact ⟨b, s', run_bind_eq_ok_iff.mpr ⟨a, t, hrun, hok⟩⟩

theorem returned_require_bind_iff {p : Prop} [Decidable p] {g : Unit → EStateM ε σ β} :
    returned (require p >>= g) s = 0 ↔ (p → returned (g ()) s = 0) := by
  by_cases hp : p
  · have heq : returned (require p >>= g) s = returned (g ()) s := by
      rw [returned, require, if_pos hp]
      rfl
    rw [heq]
    exact ⟨fun h _ => h, fun h => h hp⟩
  · have heq : returned (require p >>= g) s = 0 := by
      rw [returned, require, if_neg hp]
      rfl
    exact ⟨fun _ hp' => absurd hp' hp, fun _ => heq⟩

theorem run_require_eq_ok_iff {p : Prop} [Decidable p] {u : Unit} :
    (require p : EStateM ε σ Unit).run s = .ok u s' ↔ p ∧ s' = s := by
  rw [require]
  split_ifs with hp
  · rw [EStateM.run_pure, EStateM.Result.ok.injEq]
    exact ⟨fun h => ⟨hp, h.2.symm⟩, fun h => ⟨rfl, h.2.symm⟩⟩
  · rw [EStateM.run_throw]
    simp [hp]

end Sequence

end ErrorCode
