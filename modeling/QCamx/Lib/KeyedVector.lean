import Mathlib

/-!
# Keyed vectors

A vector of key-value pairs kept sorted by key, with the index-based interface such containers
have: the index of a key, access, replacement and removal by index, insertion by key. The order is
a field of the structure, so keys are unique by construction.

* `find?`: the value stored under a key; every operation is specified by its effect on `find?`;
* `add`, `indexOfKey`, `valueAt`, `editValueAt`, `removeItemsAt`, `clear`, `keyAt`;
* `find?_add`, `find?_editValueAt`, `find?_removeItemsAt`, `size_add_le`, `size_removeItemsAt`.
-/

variable {κ ν : Type*} [LinearOrder κ]

/-- A vector of pairs, strictly sorted by key. -/
structure KeyedVector (κ ν : Type*) [LinearOrder κ] where
  items : List (κ × ν)
  sorted : items.Pairwise (·.1 < ·.1)

namespace KeyedVector

/-! ## Insertion into a sorted list of pairs -/

/-- Insert a pair at the place of its key, replacing the value of an equal key. -/
def insertItem (k : κ) (v : ν) : List (κ × ν) → List (κ × ν)
  | [] => [(k, v)]
  | p :: l => if k < p.1 then (k, v) :: p :: l else if k = p.1 then (k, v) :: l
      else p :: insertItem k v l

theorem mem_insertItem {k : κ} {v : ν} {l : List (κ × ν)} {q : κ × ν}
    (hq : q ∈ insertItem k v l) : q = (k, v) ∨ q ∈ l := by
  induction l with
  | nil => simpa [insertItem] using hq
  | cons p l ih =>
      simp only [insertItem] at hq
      split_ifs at hq with h₁ h₂
      · simpa using hq
      · rcases List.mem_cons.mp hq with h | h
        · exact Or.inl h
        · exact Or.inr (List.mem_cons_of_mem _ h)
      · rcases List.mem_cons.mp hq with h | h
        · exact Or.inr (h ▸ List.mem_cons_self)
        · exact (ih h).imp id (List.mem_cons_of_mem _)

theorem pairwise_insertItem (k : κ) (v : ν) {l : List (κ × ν)} (hl : l.Pairwise (·.1 < ·.1)) :
    (insertItem k v l).Pairwise (·.1 < ·.1) := by
  induction l with
  | nil => simp [insertItem]
  | cons p l ih =>
      obtain ⟨hp, hl'⟩ := List.pairwise_cons.mp hl
      simp only [insertItem]
      split_ifs with h₁ h₂
      · refine List.pairwise_cons.mpr ⟨fun q hq => ?_, hl⟩
        rcases List.mem_cons.mp hq with rfl | hq
        · exact h₁
        · exact h₁.trans (hp q hq)
      · exact List.pairwise_cons.mpr ⟨fun q hq => h₂ ▸ hp q hq, hl'⟩
      · refine List.pairwise_cons.mpr ⟨fun q hq => ?_, ih hl'⟩
        rcases mem_insertItem hq with rfl | hq
        · exact lt_of_le_of_ne (not_lt.mp h₁) (Ne.symm h₂)
        · exact hp q hq

/-! ## Operations -/

variable (m : KeyedVector κ ν)

/-- The empty vector. -/
def empty : KeyedVector κ ν := ⟨[], List.Pairwise.nil⟩

/-- The number of pairs. -/
def size : ℕ := m.items.length

def isEmpty : Bool := m.items.isEmpty

/-- Insert, replacing the value of an equal key. -/
def add (k : κ) (v : ν) : KeyedVector κ ν :=
  ⟨insertItem k v m.items, pairwise_insertItem k v m.sorted⟩

/-- The index of a key, `none` where there is none. -/
def indexOfKey (k : κ) : Option (Fin m.items.length) := m.items.findFinIdx? (·.1 = k)

def keyAt (i : Fin m.items.length) : κ := (m.items.get i).1

def valueAt (i : Fin m.items.length) : ν := (m.items.get i).2

/-- Replace the value at an index. -/
def editValueAt (i : Fin m.items.length) (v : ν) : KeyedVector κ ν where
  items := m.items.set i (m.keyAt i, v)
  sorted := by
    have h : (m.items.set i (m.keyAt i, v)).map Prod.fst = m.items.map Prod.fst := by
      have hi : (i : ℕ) < (m.items.map Prod.fst).length := by simp
      have hk : (m.keyAt i, v).1 = (m.items.map Prod.fst)[(i : ℕ)] := by simp [keyAt]
      rw [List.map_set, hk, List.set_getElem_self]
    exact List.pairwise_map.mp (h ▸ List.pairwise_map.mpr m.sorted)

/-- Remove the pair at an index. -/
def removeItemsAt (i : Fin m.items.length) : KeyedVector κ ν :=
  ⟨m.items.eraseIdx i, m.sorted.sublist (List.eraseIdx_sublist _ _)⟩

def clear (_ : KeyedVector κ ν) : KeyedVector κ ν := empty

/-- The value stored under a key. -/
def find? (k : κ) : Option ν := (m.items.find? (·.1 = k)).map Prod.snd

/-! ## Lookup -/

variable {m} {k : κ}

theorem find?_eq_some_iff {v : ν} : m.find? k = some v ↔ (k, v) ∈ m.items := by
  have hu : ∀ {l : List (κ × ν)}, l.Pairwise (·.1 < ·.1) →
      ((l.find? (·.1 = k)).map Prod.snd = some v ↔ (k, v) ∈ l) := by
    intro l
    induction l with
    | nil => simp
    | cons p l ih =>
        intro hl
        obtain ⟨hp, hl'⟩ := List.pairwise_cons.mp hl
        by_cases h : p.1 = k
        · rw [List.find?_cons_of_pos (by simpa using h), Option.map_some, Option.some_inj,
            List.mem_cons]
          refine ⟨fun e => Or.inl (by rw [← h, ← e]), ?_⟩
          rintro (e | e)
          · rw [← e]
          · exact absurd (hp _ e) (by simp [h])
        · rw [List.find?_cons_of_neg (by simpa using h), ih hl', List.mem_cons]
          exact ⟨Or.inr, fun e => e.resolve_left fun e' => h (by rw [← e'])⟩
  exact hu m.sorted

theorem find?_eq_none_iff : m.find? k = none ↔ ∀ p ∈ m.items, p.1 ≠ k := by
  simp [find?]

theorem find?_of_indexOfKey {i : Fin m.items.length} (h : m.indexOfKey k = some i) :
    m.find? k = some (m.valueAt i) := by
  have hk : (m.items.get i).1 = k := by
    have := (List.findFinIdx?_eq_some_iff.mp h).1
    simpa using this
  rw [find?_eq_some_iff, ← hk]
  exact List.get_mem m.items i

theorem keyAt_of_indexOfKey {i : Fin m.items.length} (h : m.indexOfKey k = some i) :
    m.keyAt i = k := by
  have := (List.findFinIdx?_eq_some_iff.mp h).1
  simpa [keyAt] using this

theorem indexOfKey_eq_none_iff : m.indexOfKey k = none ↔ m.find? k = none := by
  rw [find?_eq_none_iff]
  simp [indexOfKey]

theorem index_unique {i j : Fin m.items.length} (h : m.keyAt i = m.keyAt j) : i = j := by
  have hs := List.pairwise_iff_get.mp m.sorted
  rcases lt_trichotomy i j with hij | hij | hij
  · exact absurd h (hs i j hij).ne
  · exact hij
  · exact absurd h (hs j i hij).ne'

/-! ## Lookup after each operation -/

@[simp] theorem find?_add (m : KeyedVector κ ν) (k k' : κ) (v : ν) :
    (m.add k v).find? k' = if k' = k then some v else m.find? k' := by
  have hl : ∀ l : List (κ × ν), ((insertItem k v l).find? (·.1 = k')).map Prod.snd =
      if k' = k then some v else (l.find? (·.1 = k')).map Prod.snd := by
    intro l
    induction l with
    | nil =>
        simp only [insertItem, List.find?_cons, List.find?_nil]
        by_cases h : k = k'
        · simp [h]
        · simp [h, Ne.symm h]
    | cons p l ih =>
        by_cases hk : k' = k
        · subst hk
          rw [if_pos rfl] at ih ⊢
          simp only [insertItem]
          split_ifs with h₁ h₂
          · simp
          · simp
          · rw [List.find?_cons_of_neg (by simpa using Ne.symm h₂), ih]
        · rw [if_neg hk] at ih ⊢
          have hk' : ¬ k = k' := Ne.symm hk
          simp only [insertItem]
          split_ifs with h₁ h₂
          · rw [List.find?_cons_of_neg (by simpa using hk')]
          · rw [List.find?_cons_of_neg (by simpa using hk'),
              List.find?_cons_of_neg (by simpa [← h₂] using hk')]
          · by_cases hp : p.1 = k'
            · simp [hp]
            · rw [List.find?_cons_of_neg (by simpa using hp), ih,
                List.find?_cons_of_neg (by simpa using hp)]
  exact hl m.items

theorem find?_editValueAt {i : Fin m.items.length} (hi : m.indexOfKey k = some i) (v : ν)
    (k' : κ) : (m.editValueAt i v).find? k' = if k' = k then some v else m.find? k' := by
  have hk : m.keyAt i = k := keyAt_of_indexOfKey hi
  refine Option.ext fun w => ?_
  rw [find?_eq_some_iff, editValueAt, List.mem_iff_getElem]
  simp only [List.length_set, List.getElem_set, hk]
  split_ifs with h
  · subst h
    rw [Option.some_inj]
    constructor
    · rintro ⟨j, hj, e⟩
      split_ifs at e with hij
      · exact (Prod.mk.inj e).2
      · refine absurd (congrArg Fin.val (index_unique (m := m) (i := i) (j := ⟨j, hj⟩) ?_)) hij
        rw [hk, keyAt, List.get_eq_getElem, e]
    · rintro rfl
      exact ⟨i, i.2, by rw [if_pos rfl]⟩
  · rw [find?_eq_some_iff, List.mem_iff_getElem]
    refine exists_congr fun j => exists_congr fun hj => ?_
    split_ifs with hij
    · refine ⟨fun e => absurd (Prod.mk.inj e).1.symm h, fun e => absurd ?_ h⟩
      rw [← hk, keyAt, List.get_eq_getElem]
      simp only [hij, e]
    · rfl

theorem find?_removeItemsAt {i : Fin m.items.length} (hi : m.indexOfKey k = some i) (k' : κ) :
    (m.removeItemsAt i).find? k' = if k' = k then none else m.find? k' := by
  have hk : m.keyAt i = k := keyAt_of_indexOfKey hi
  refine Option.ext fun w => ?_
  rw [find?_eq_some_iff, removeItemsAt, List.mem_eraseIdx_iff_getElem]
  split_ifs with h
  · subst h
    simp only [iff_false]
    rintro ⟨j, hj, hne, e⟩
    refine absurd (congrArg Fin.val (index_unique (m := m) (i := ⟨j, hj⟩) (j := i) ?_)) hne
    rw [hk, keyAt, List.get_eq_getElem, e]
  · rw [find?_eq_some_iff, List.mem_iff_getElem]
    refine exists_congr fun j => exists_congr fun hj => ⟨And.right, fun e => ⟨?_, e⟩⟩
    rintro rfl
    apply h
    rw [← hk, keyAt, List.get_eq_getElem, e]

/-! ## Size -/

theorem isEmpty_iff : m.isEmpty = true ↔ ∀ k, m.find? k = none := by
  rw [isEmpty, List.isEmpty_iff]
  constructor
  · intro h k
    rw [find?_eq_none_iff, h]
    simp
  · intro h
    by_contra hne
    obtain ⟨p, hp⟩ := List.exists_mem_of_ne_nil _ hne
    exact (find?_eq_none_iff.mp (h p.1)) p hp rfl

theorem size_add_le (m : KeyedVector κ ν) (k : κ) (v : ν) : (m.add k v).size ≤ m.size + 1 := by
  have hl : ∀ l : List (κ × ν), (insertItem k v l).length ≤ l.length + 1 := by
    intro l
    induction l with
    | nil => simp [insertItem]
    | cons p l ih =>
        simp only [insertItem]
        split_ifs
        · rfl
        · simp
        · simpa using ih
  exact hl m.items

@[simp] theorem size_editValueAt (i : Fin m.items.length) (v : ν) :
    (m.editValueAt i v).size = m.size := by
  simp [editValueAt, size]

theorem size_removeItemsAt (i : Fin m.items.length) :
    (m.removeItemsAt i).size + 1 = m.size := by
  have := i.2
  simp only [removeItemsAt, size, List.length_eraseIdx, if_pos i.2]
  omega

end KeyedVector
