import Mathlib

/-!
# Guarded runs of a labelled transition system

A system is a partial function `step : α → σ → Option σ`: action `a` is either not enabled in a
state or leads to one state, so all nondeterminism sits in the actions. A *guard*
`ok : α → σ → Prop` restricts which enabled actions a run may take; it is how an assumption on
the environment is stated.

* `Next`, `Reachable`: one guarded step, and its reflexive transitive closure;
* **`Reachable.invariant`**: an initial predicate kept by every guarded step holds everywhere;
* `Reachable.mono`: a stronger guard reaches fewer states;
* **`Reachable.simulate`**: a relation that matches steps by steps or by nothing matches runs;
* `exec`, `Reachable.of_exec`: a concrete list of actions, checked by evaluation.
-/

namespace Guarded

variable {σ α : Type*} (step : α → σ → Option σ) (ok : α → σ → Prop)

/-- One step by an action the guard allows. -/
def Next (s s' : σ) : Prop := ∃ a, ok a s ∧ step a s = some s'

/-- `s` is reached from `s₀` by guarded steps. -/
def Reachable (s₀ s : σ) : Prop := Relation.ReflTransGen (Next step ok) s₀ s

/-- Run a list of actions, each of which must be allowed and enabled. -/
def exec [∀ a s, Decidable (ok a s)] : List α → σ → Option σ
  | [], s => some s
  | a :: as, s => if ok a s then (step a s).bind (exec as) else none

variable {step ok} {s₀ s s' : σ}

namespace Reachable

theorem refl : Reachable step ok s₀ s₀ := Relation.ReflTransGen.refl

theorem tail {a : α} (h : Reachable step ok s₀ s) (ha : ok a s) (hs : step a s = some s') :
    Reachable step ok s₀ s' :=
  Relation.ReflTransGen.tail h ⟨a, ha, hs⟩

/-- **Invariant rule.** The step may use that the state it leaves is itself reachable. -/
theorem invariant {P : σ → Prop} (h : Reachable step ok s₀ s) (h₀ : P s₀)
    (hstep : ∀ s a s', Reachable step ok s₀ s → P s → ok a s → step a s = some s' → P s') :
    P s := by
  induction h with
  | refl => exact h₀
  | tail hr hn ih =>
      obtain ⟨a, ha, hs⟩ := hn
      exact hstep _ a _ hr ih ha hs

theorem mono {ok' : α → σ → Prop} (h : Reachable step ok s₀ s)
    (hok : ∀ a s s', Reachable step ok s₀ s → ok a s → step a s = some s' → ok' a s) :
    Reachable step ok' s₀ s := by
  induction h with
  | refl => exact refl
  | tail hr hn ih =>
      obtain ⟨a, ha, hs⟩ := hn
      exact ih.tail (hok a _ _ hr ha hs) hs

/-- **Simulation rule.** If the steps of a system are matched, through a relation `R`, by at most
one guarded step of another system, then so are its runs. -/
theorem simulate {τ β : Type*} {step' : β → τ → Option τ} {ok' : β → τ → Prop}
    {R : σ → τ → Prop} {t₀ : τ} (h : Reachable step ok s₀ s) (h₀ : R s₀ t₀)
    (hsim : ∀ s a s' t, Reachable step ok s₀ s → Reachable step' ok' t₀ t → R s t → ok a s →
      step a s = some s' → ∃ t', R s' t' ∧ (t' = t ∨ Next step' ok' t t')) :
    ∃ t, R s t ∧ Reachable step' ok' t₀ t := by
  induction h with
  | refl => exact ⟨t₀, h₀, refl⟩
  | tail hr hn ih =>
      obtain ⟨a, ha, hs⟩ := hn
      obtain ⟨t, hR, ht⟩ := ih
      obtain ⟨t', hR', rfl | hn'⟩ := hsim _ a _ t hr ht hR ha hs
      · exact ⟨t', hR', ht⟩
      · exact ⟨t', hR', Relation.ReflTransGen.tail ht hn'⟩

theorem of_exec [∀ a s, Decidable (ok a s)] {as : List α} (h : exec step ok as s₀ = some s) :
    Reachable step ok s₀ s := by
  induction as generalizing s₀ with
  | nil =>
      obtain rfl := Option.some.inj h
      exact Relation.ReflTransGen.refl
  | cons a as ih =>
      simp only [exec] at h
      split_ifs at h with ha
      obtain ⟨s₁, hs₁, hs⟩ := Option.bind_eq_some_iff.mp h
      exact Relation.ReflTransGen.head ⟨a, ha, hs₁⟩ (ih hs)

theorem exists_of_exec [∀ a s, Decidable (ok a s)] {p : σ → Prop} [DecidablePred p] (as : List α)
    (h : (exec step ok as s₀).any (fun s => decide (p s)) = true) :
    ∃ s, Reachable step ok s₀ s ∧ p s := by
  obtain ⟨s, hs, hp⟩ := (Option.any_eq_true _ _).mp h
  exact ⟨s, of_exec hs, of_decide_eq_true hp⟩

end Reachable

end Guarded
