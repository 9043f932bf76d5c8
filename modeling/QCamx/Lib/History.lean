import QCamx.Lib.Guarded

/-!
# Runs with a history

A transition system, together with a value that is computed from its steps and that no step reads.

* `withHistory`: the system with the value beside the state;
* `Reachable.forget`, **`Reachable.exists_history`**: its runs are the runs of the system.
-/

namespace Guarded

variable {σ α η : Type*} (step : α → σ → Option σ) (record : α → σ → σ → η → η)

/-- A step of the system, after which `record` brings the history up to date. -/
def withHistory (a : α) (p : σ × η) : Option (σ × η) :=
  (step a p.1).map fun s' => (s', record a p.1 s' p.2)

/-- A guard on the system's steps alone. -/
def onState (ok : α → σ → Prop) (a : α) (p : σ × η) : Prop := ok a p.1

instance (ok : α → σ → Prop) [∀ a s, Decidable (ok a s)] (a : α) (p : σ × η) :
    Decidable (onState ok a p) :=
  inferInstanceAs (Decidable (ok a p.1))

variable {step record} {ok : α → σ → Prop} {s₀ : σ} {h₀ : η}

theorem withHistory_eq_some_iff {a : α} {p p' : σ × η} :
    withHistory step record a p = some p' ↔
      step a p.1 = some p'.1 ∧ p'.2 = record a p.1 p'.1 p.2 := by
  rw [withHistory, Option.map_eq_some_iff]
  constructor
  · rintro ⟨s', hs, rfl⟩
    exact ⟨hs, rfl⟩
  · rintro ⟨hs, hh⟩
    exact ⟨p'.1, hs, Prod.ext rfl hh.symm⟩

namespace Reachable

theorem forget {p : σ × η} (h : Reachable (withHistory step record) (onState ok) (s₀, h₀) p) :
    Reachable step ok s₀ p.1 := by
  induction h with
  | refl => exact refl
  | tail _ hn ih =>
      have ⟨a, ha, hs⟩ := hn
      exact ih.tail ha (withHistory_eq_some_iff.mp hs).1

/-- **Every run has its history.** -/
theorem exists_history {s : σ} (h : Reachable step ok s₀ s) (h₀ : η) :
    ∃ hist, Reachable (withHistory step record) (onState ok) (s₀, h₀) (s, hist) := by
  induction h with
  | refl => exact ⟨h₀, refl⟩
  | @tail s s' _ hn ih =>
      have ⟨a, ha, hs⟩ := hn
      have ⟨hist, hr⟩ := ih
      have hstep : withHistory step record a (s, hist) = some (s', record a s s' hist) :=
        withHistory_eq_some_iff.mpr ⟨hs, rfl⟩
      exact ⟨record a s s' hist, hr.tail (a := a) ha hstep⟩

/-- **Invariant rule** for a run with its history. -/
theorem invariant_history {P : σ → η → Prop} {p : σ × η}
    (h : Reachable (withHistory step record) (onState ok) (s₀, h₀) p) (hinit : P s₀ h₀)
    (hstep : ∀ s hist a s', Reachable step ok s₀ s → P s hist → ok a s → step a s = some s' →
      P s' (record a s s' hist)) :
    P p.1 p.2 := by
  induction h with
  | refl => exact hinit
  | @tail p p' hr hn ih =>
      have ⟨a, ha, hs⟩ := hn
      have ⟨hs', hh⟩ := withHistory_eq_some_iff.mp hs
      rw [hh]
      exact hstep p.1 p.2 a p'.1 (forget hr) ih ha hs'

end Reachable

end Guarded
