import Mathlib

/-!
# Tokens that are handed around

A fixed list of distinct tokens, the places where they are, and those that were dropped. A step
moves tokens between the places, or drops one.

* `Held`: every token is in a place or was dropped;
* `Held.moved`, `Held.dropped`: the two kinds of steps;
* **`Held.one_place_iff`**: every token is in exactly one place if and only if none was dropped;
* **`Held.notMem_places`**: a token that was dropped is in no place.
-/

namespace Tokens

variable {α : Type*}

/-- The tokens of `all` are those in `places` and the `lost` ones. -/
def Held (all places lost : List α) : Prop := (places ++ lost).Perm all

namespace Held

variable {all places places' lost : List α}

theorem refl (all : List α) : Held all all [] := by
  rw [Held, List.append_nil]

theorem moved (h : Held all places lost) (hp : places'.Perm places) : Held all places' lost :=
  (hp.append_right lost).trans h

theorem dropped {x : α} (h : Held all places lost) (hp : places.Perm (x :: places')) :
    Held all places' (x :: lost) :=
  (List.perm_middle.trans (hp.symm.append_right lost)).trans h

theorem nodup (h : Held all places lost) (hall : all.Nodup) : places.Nodup :=
  (h.nodup_iff.mpr hall).of_append_left

/-- **A token that was dropped is in no place.** -/
theorem notMem_places (h : Held all places lost) (hall : all.Nodup) {x : α} (hx : x ∈ lost) :
    x ∉ places := fun hplace =>
  (h.nodup_iff.mpr hall).disjoint hplace hx

/-- **Every token is in exactly one place if and only if none was dropped.** -/
theorem one_place_iff [BEq α] [LawfulBEq α] (h : Held all places lost) (hall : all.Nodup) :
    (∀ x ∈ all, places.count x = 1) ↔ lost = [] := by
  constructor
  · intro hone
    rw [List.eq_nil_iff_forall_not_mem]
    intro x hx
    have hplace := hone x (h.subset (List.mem_append_right _ hx))
    exact h.notMem_places hall hx (List.count_pos_iff.mp (by omega))
  · intro hnil x hx
    rw [Held, hnil, List.append_nil] at h
    rw [h.count_eq]
    exact List.count_eq_one_of_mem hall hx

end Held

end Tokens
