import QCamx.Lib.Guarded

/-!
# Runs as lists of actions

What can be said of a run action by action: that each of its steps has a property, and how many of
them have one.

* `Along`, `countAlong`: the two notions;
* **`final_iff_along`**: a property of states that every step keeps under a condition, and loses
  otherwise, holds at the end if the condition held all along;
* **`countAlong_add_le`**: a measure that the counted steps use up bounds their number;
* `exists_step_of_lost`: the step in which a property is lost.
-/

namespace Guarded

variable {σ α : Type*} (step : α → σ → Option σ)

/-- Every step of a run has the property `P`. -/
def Along (P : α → σ → Prop) : List α → σ → Prop
  | [], _ => True
  | a :: as, s => P a s ∧ ∀ s', step a s = some s' → Along P as s'

instance decidableAlong {P : α → σ → Prop} [∀ a s, Decidable (P a s)] :
    ∀ as s, Decidable (Along step P as s)
  | [], _ => isTrue trivial
  | a :: as, s =>
      match h : step a s with
      | none => decidable_of_iff (P a s) ⟨fun hp => ⟨hp, by simp [h]⟩, fun hp => hp.1⟩
      | some s' =>
          have : Decidable (Along step P as s') := decidableAlong as s'
          decidable_of_iff (P a s ∧ Along step P as s')
            ⟨fun hp => ⟨hp.1, fun t ht => Option.some.inj (h.symm.trans ht) ▸ hp.2⟩,
              fun hp => ⟨hp.1, hp.2 s' h⟩⟩

/-- The number of steps of a run with the property `p`. -/
def countAlong (p : α → σ → Bool) : List α → σ → ℕ
  | [], _ => 0
  | a :: as, s =>
      (if p a s then 1 else 0) +
        match step a s with
        | some s' => countAlong p as s'
        | none => 0

variable {step} {ok : α → σ → Prop} [∀ a s, Decidable (ok a s)] {s s' : σ} {as : List α}

theorem exec_cons_eq_some_iff {a : α} :
    exec step ok (a :: as) s = some s' ↔
      ok a s ∧ ∃ t, step a s = some t ∧ exec step ok as t = some s' := by
  rw [exec]
  split_ifs with ha
  · rw [Option.bind_eq_some_iff]
    exact ⟨fun h => ⟨ha, h⟩, And.right⟩
  · simp [ha]

/-- **A property that each step keeps exactly under a condition** holds at the end of a run exactly
if it held at the beginning and the condition held all along. -/
theorem final_iff_along {Inv C : σ → Prop} {P : α → σ → Prop}
    (hinv : ∀ a s s', Inv s → ok a s → step a s = some s' → Inv s')
    (hstep : ∀ a s s', Inv s → ok a s → step a s = some s' → (C s' ↔ C s ∧ P a s))
    (h : exec step ok as s = some s') (hs : Inv s) : C s' ↔ C s ∧ Along step P as s := by
  induction as generalizing s with
  | nil =>
      obtain rfl := Option.some.inj h
      exact ⟨fun hc => ⟨hc, trivial⟩, And.left⟩
  | cons a as ih =>
      obtain ⟨ha, t, ht, hrest⟩ := exec_cons_eq_some_iff.mp h
      rw [ih hrest (hinv a s t hs ha ht), hstep a s t hs ha ht, Along, and_assoc]
      refine and_congr_right fun _ => and_congr_right fun _ => ?_
      constructor
      · intro hall t' ht'
        obtain rfl := Option.some.inj (ht.symm.trans ht')
        exact hall
      · intro hall
        exact hall t ht

/-- **A measure bounds the number of steps that use it up.** -/
theorem countAlong_add_le {Inv : σ → Prop} {p : α → σ → Bool} {μ : σ → ℕ}
    (hinv : ∀ a s s', Inv s → ok a s → step a s = some s' → Inv s')
    (hstep : ∀ a s s', Inv s → ok a s → step a s = some s' →
      μ s' + (if p a s then 1 else 0) ≤ μ s)
    (h : exec step ok as s = some s') (hs : Inv s) : countAlong step p as s + μ s' ≤ μ s := by
  induction as generalizing s with
  | nil =>
      obtain rfl := Option.some.inj h
      simp [countAlong]
  | cons a as ih =>
      obtain ⟨ha, t, ht, hrest⟩ := exec_cons_eq_some_iff.mp h
      have hle := ih hrest (hinv a s t hs ha ht)
      have hmeasure := hstep a s t hs ha ht
      rw [countAlong, ht]
      simp only
      omega

theorem exists_step_of_lost {P : σ → Prop} (h : exec step ok as s = some s') (h₀ : P s)
    (hs : ¬ P s') :
    ∃ pre a post t t', as = pre ++ a :: post ∧ exec step ok pre s = some t ∧ ok a t ∧
      step a t = some t' ∧ exec step ok post t' = some s' ∧ P t ∧ ¬ P t' := by
  induction as generalizing s with
  | nil =>
      obtain rfl := Option.some.inj h
      exact absurd h₀ hs
  | cons a as ih =>
      obtain ⟨ha, t, ht, hrest⟩ := exec_cons_eq_some_iff.mp h
      by_cases hP : P t
      · obtain ⟨pre, b, post, u, u', rfl, hpre, hb, hu, hpost, hPu, hPu'⟩ := ih hrest hP
        refine ⟨a :: pre, b, post, u, u', rfl, ?_, hb, hu, hpost, hPu, hPu'⟩
        exact exec_cons_eq_some_iff.mpr ⟨ha, t, ht, hpre⟩
      · exact ⟨[], a, as, s, t, rfl, rfl, ha, ht, hrest, h₀, hP⟩

end Guarded
