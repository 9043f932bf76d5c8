import QCamx.Lib.Guarded

/-!
# A service that hands out what was ordered

Items are ordered, are outstanding until they are served or lost, and are served in some order. What
is outstanding can be served or lost, and nothing else can.

* `Service`, `Act`, `step`: the orders, what is outstanding, what was served and what was lost;
* **`balance`**: every order is outstanding, served or lost;
* **`served_subperm`**, **`nodup_map_served`**: what is served was ordered, and nothing is served
  twice that was ordered once;
* **`served_perm`**: when nothing is outstanding and nothing was lost, all orders were served.
-/

/-- What was ordered of a service, and what became of it. -/
@[ext]
structure Service (α : Type*) where
  ordered : List α := []
  outstanding : Multiset α := 0
  served : List α := []
  lost : Multiset α := 0

namespace Service

open Guarded

variable {α : Type*} [DecidableEq α]

inductive Act (α : Type*)
  | order (l : List α)
  | serve (l : List α)
  | lose (l : List α)

/-- Orders are taken at any time; only what is outstanding is served or lost. -/
def step : Act α → Service α → Option (Service α)
  | .order l, s => some { s with ordered := s.ordered ++ l, outstanding := s.outstanding + l }
  | .serve l, s =>
      if (l : Multiset α) ≤ s.outstanding then
        some { s with outstanding := s.outstanding - l, served := s.served ++ l }
      else none
  | .lose l, s =>
      if (l : Multiset α) ≤ s.outstanding then
        some { s with outstanding := s.outstanding - l, lost := s.lost + l }
      else none

theorem step_serve {s : Service α} {l : List α} (rest : Multiset α)
    (h : s.outstanding = l + rest) :
    step (.serve l) s = some { s with outstanding := rest, served := s.served ++ l } := by
  have hle : (l : Multiset α) ≤ s.outstanding := h ▸ Multiset.le_add_right _ _
  rw [step, if_pos hle, h, add_tsub_cancel_left]

theorem step_lose {s : Service α} {l : List α} (rest : Multiset α)
    (h : s.outstanding = l + rest) :
    step (.lose l) s = some { s with outstanding := rest, lost := s.lost + l } := by
  have hle : (l : Multiset α) ≤ s.outstanding := h ▸ Multiset.le_add_right _ _
  rw [step, if_pos hle, h, add_tsub_cancel_left]

/-! ## Orders and services -/

/-- Every order is outstanding, served or lost. -/
def Balanced (s : Service α) : Prop :=
  (s.ordered : Multiset α) = s.outstanding + s.served + s.lost

theorem Balanced.step {s s' : Service α} {a : Act α} (h : Balanced s) (hs : step a s = some s') :
    Balanced s' := by
  unfold Balanced at h ⊢
  cases a with
  | order l =>
      obtain rfl := Option.some.inj hs
      show ((s.ordered ++ l : List α) : Multiset α) = s.outstanding + l + s.served + s.lost
      rw [← Multiset.coe_add, h]
      abel
  | serve l =>
      simp only [Service.step] at hs
      split_ifs at hs with hle
      obtain rfl := Option.some.inj hs
      obtain ⟨rest, hrest⟩ := Multiset.le_iff_exists_add.mp hle
      show (s.ordered : Multiset α) =
        s.outstanding - l + (s.served ++ l : List α) + s.lost
      rw [h, hrest, add_tsub_cancel_left, ← Multiset.coe_add]
      abel
  | lose l =>
      simp only [Service.step] at hs
      split_ifs at hs with hle
      obtain rfl := Option.some.inj hs
      obtain ⟨rest, hrest⟩ := Multiset.le_iff_exists_add.mp hle
      show (s.ordered : Multiset α) = s.outstanding - l + s.served + (s.lost + l)
      rw [h, hrest, add_tsub_cancel_left]
      abel

variable {ok : Act α → Service α → Prop} {s : Service α}

/-- **Every order is outstanding, served or lost.** -/
theorem balance (h : Reachable step ok {} s) : Balanced s :=
  h.invariant (P := Balanced) (by simp [Balanced]) fun _ _ _ _ hi _ hs => hi.step hs

/-- **What is served was ordered.** -/
theorem served_subperm (h : Reachable step ok {} s) : s.served.Subperm s.ordered := by
  rw [← Multiset.coe_le, balance h, add_assoc, add_left_comm]
  exact Multiset.le_add_right _ _

/-- **Nothing is served twice that was ordered once**, whatever the orders are told apart by. -/
theorem nodup_map_served {β : Type*} {f : α → β} (h : Reachable step ok {} s)
    (hordered : (s.ordered.map f).Nodup) : (s.served.map f).Nodup := by
  obtain ⟨l, hperm, hsub⟩ := served_subperm h
  exact (hperm.map f).nodup_iff.mp (hordered.sublist (hsub.map f))

/-- **All orders were served** when nothing is outstanding and nothing was lost. -/
theorem served_perm (h : Reachable step ok {} s) (hout : s.outstanding = 0) (hlost : s.lost = 0) :
    s.served.Perm s.ordered := by
  have hbalance := balance h
  rw [Balanced, hout, hlost, zero_add, add_zero] at hbalance
  exact (Multiset.coe_eq_coe.mp hbalance).symm

end Service
