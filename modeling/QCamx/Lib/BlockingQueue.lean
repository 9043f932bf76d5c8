import QCamx.Lib.Guarded

/-!
# A blocking queue whose consumers test emptiness once

Any number of threads take from one queue. A thread that finds it empty waits on a condition
variable; **it does not test again after the wait**, it takes the front element at once. A push
wakes any of the waiting threads; a wait may also return by itself.

* `BlockingQueue`, `Act`, `step`; `underflow` records a take from an empty queue;
* **`fifo`**: what was pushed is what was taken, in that order, followed by what is queued;
* **`no_underflow`**: no take is from an empty queue where every wait that returns finds the queue
  non-empty;
* **`wakesNonempty_of_single`**: so it is with one consumer and no spurious wake-up;
* `waits`, **`waits_le_one`**: a thread is in the wait at most once;
* `AwakeForItems`: no thread is left waiting beside an item, if every push wakes all;
* **`wakesNonempty_of_served`**, **`exists_underflow`**: several consumers find the queue non-empty
  as long as there is an item for each that was woken, and otherwise one of them does not.
-/

/-- Why a wait on a condition variable returns. -/
inductive Wake
  | signal | spurious | timeout
  deriving DecidableEq, Repr

structure BlockingQueue (α : Type*) where
  items : List α
  /-- The threads in the wait that nobody has signalled. -/
  waiting : List ℕ := []
  /-- The threads that were signalled and have yet to return from the wait. -/
  notified : List ℕ := []
  pushed : List α := items
  taken : List (ℕ × α) := []
  underflow : Bool := false

namespace BlockingQueue

open Guarded

variable {α : Type*}

/-- The actions; `push` names the threads it wakes. -/
inductive Act (α : Type*)
  | push (a : α) (woken : List ℕ)
  | take (t : ℕ)
  | wake (t : ℕ) (w : Wake)

/-- Append, and wake the threads named. -/
def push (a : α) (woken : List ℕ) (q : BlockingQueue α) : BlockingQueue α :=
  { q with
    items := q.items ++ [a]
    pushed := q.pushed ++ [a]
    waiting := q.waiting.filter (· ∉ woken)
    notified := q.notified ++ q.waiting.filter (· ∈ woken) }

/-- Take the front element, without a test. -/
def popFront (t : ℕ) (q : BlockingQueue α) : BlockingQueue α :=
  match q.items with
  | [] => { q with underflow := true }
  | a :: l => { q with items := l, taken := q.taken ++ [(t, a)] }

/-- Thread `t` leaves the wait. -/
def leave (t : ℕ) (q : BlockingQueue α) : BlockingQueue α :=
  if t ∈ q.notified then { q with notified := q.notified.erase t }
  else { q with waiting := q.waiting.erase t }

def step : Act α → BlockingQueue α → Option (BlockingQueue α)
  | .push a woken, q => some (push a woken q)
  | .take t, q =>
      if t ∈ q.waiting ∨ t ∈ q.notified then none
      else if q.items = [] then some { q with waiting := q.waiting ++ [t] }
      else some (popFront t q)
  | .wake t .signal, q => if t ∈ q.notified then some (popFront t (leave t q)) else none
  | .wake t .spurious, q =>
      if t ∈ q.waiting ∨ t ∈ q.notified then some (popFront t (leave t q)) else none
  | .wake t .timeout, q => if t ∈ q.waiting ∨ t ∈ q.notified then some (leave t q) else none

/-! ## First in, first out -/

@[simp] theorem items_leave (t : ℕ) (q : BlockingQueue α) : (leave t q).items = q.items := by
  unfold leave; split_ifs <;> rfl

@[simp] theorem pushed_leave (t : ℕ) (q : BlockingQueue α) : (leave t q).pushed = q.pushed := by
  unfold leave; split_ifs <;> rfl

@[simp] theorem taken_leave (t : ℕ) (q : BlockingQueue α) : (leave t q).taken = q.taken := by
  unfold leave; split_ifs <;> rfl

@[simp] theorem underflow_leave (t : ℕ) (q : BlockingQueue α) :
    (leave t q).underflow = q.underflow := by
  unfold leave; split_ifs <;> rfl

/-- What was pushed is what was taken followed by what is queued. -/
def Fifo (q : BlockingQueue α) : Prop := q.pushed = q.taken.map Prod.snd ++ q.items

theorem Fifo.leave {q : BlockingQueue α} (h : Fifo q) (t : ℕ) : Fifo (leave t q) := by
  unfold Fifo at h ⊢
  rw [pushed_leave, taken_leave, items_leave, h]

theorem Fifo.popFront {q : BlockingQueue α} (h : Fifo q) (t : ℕ) : Fifo (popFront t q) := by
  unfold Fifo at h ⊢
  unfold BlockingQueue.popFront
  split
  · exact h
  · next a l hl => simp [h, hl]

theorem Fifo.step {q q' : BlockingQueue α} {a : Act α} (h : Fifo q) (hs : step a q = some q') :
    Fifo q' := by
  cases a with
  | push a woken =>
      obtain rfl := Option.some.inj hs
      unfold Fifo at h ⊢
      simp [push, h]
  | take t =>
      simp only [BlockingQueue.step] at hs
      split_ifs at hs
      · obtain rfl := Option.some.inj hs
        exact h
      · obtain rfl := Option.some.inj hs
        exact h.popFront t
  | wake t w =>
      cases w with
      | signal | spurious =>
          simp only [BlockingQueue.step] at hs
          split_ifs at hs
          obtain rfl := Option.some.inj hs
          exact (h.leave t).popFront t
      | timeout =>
          simp only [BlockingQueue.step] at hs
          split_ifs at hs
          obtain rfl := Option.some.inj hs
          exact h.leave t

/-- **The queue is first in, first out**, under any guard. -/
theorem fifo {ok : Act α → BlockingQueue α → Prop} {q₀ q : BlockingQueue α}
    (h : Reachable step ok q₀ q) (h₀ : Fifo q₀) : Fifo q :=
  h.invariant h₀ fun _ _ _ _ hq _ hs => hq.step hs

theorem step_cases {q q' : BlockingQueue α} {a : Act α} (hs : step a q = some q') :
    (∃ b woken, a = .push b woken ∧ q'.items = q.items ++ [b] ∧ q'.taken = q.taken) ∨
      (q'.items = q.items ∧ q'.taken = q.taken) ∨
      ∃ t b, q.items = b :: q'.items ∧ q'.taken = q.taken ++ [(t, b)] := by
  have hpop : ∀ (t : ℕ) (p : BlockingQueue α),
      ((popFront t p).items = p.items ∧ (popFront t p).taken = p.taken) ∨
        ∃ t' b, p.items = b :: (popFront t p).items ∧
          (popFront t p).taken = p.taken ++ [(t', b)] := by
    intro t p
    unfold popFront
    split
    · exact Or.inl ⟨rfl, rfl⟩
    · next b l hl => exact Or.inr ⟨t, b, hl, rfl⟩
  cases a with
  | push b woken =>
      obtain rfl := Option.some.inj hs
      exact Or.inl ⟨b, woken, rfl, rfl, rfl⟩
  | take t =>
      simp only [step] at hs
      split_ifs at hs
      · obtain rfl := Option.some.inj hs
        exact Or.inr (Or.inl ⟨rfl, rfl⟩)
      · obtain rfl := Option.some.inj hs
        exact Or.inr (hpop t q)
  | wake t w =>
      cases w with
      | signal | spurious =>
          simp only [step] at hs
          split_ifs at hs
          obtain rfl := Option.some.inj hs
          have := hpop t (leave t q)
          rw [items_leave, taken_leave] at this
          exact Or.inr this
      | timeout =>
          simp only [step] at hs
          split_ifs at hs
          obtain rfl := Option.some.inj hs
          exact Or.inr (Or.inl ⟨items_leave t q, taken_leave t q⟩)

/-- What a push appends. -/
def Act.pushes : Act α → List α
  | .push a _ => [a]
  | _ => []

/-- The thread that takes the front element, if there is one. -/
def Act.taker : Act α → Option ℕ
  | .take t | .wake t .signal | .wake t .spurious => some t
  | _ => none

theorem pushed_step {q q' : BlockingQueue α} {a : Act α} (hs : step a q = some q') :
    q'.pushed = q.pushed ++ a.pushes := by
  have hpop : ∀ (t : ℕ) (p : BlockingQueue α), (popFront t p).pushed = p.pushed := by
    intro t p
    unfold popFront
    split <;> rfl
  cases a with
  | push b woken =>
      obtain rfl := Option.some.inj hs
      rfl
  | take t =>
      simp only [step] at hs
      split_ifs at hs <;> obtain rfl := Option.some.inj hs <;> simp [Act.pushes, hpop]
  | wake t w =>
      cases w <;> simp only [step] at hs <;> split_ifs at hs <;>
        obtain rfl := Option.some.inj hs <;> simp [Act.pushes, hpop]

theorem taken_step {q q' : BlockingQueue α} {a : Act α} (hs : step a q = some q') :
    q'.taken = q.taken ++ (a.taker.bind fun t => q.items.head?.map (Prod.mk t)).toList := by
  have hpop : ∀ (t : ℕ) (p : BlockingQueue α),
      (popFront t p).taken = p.taken ++ (p.items.head?.map (Prod.mk t)).toList := by
    intro t p
    unfold popFront
    split
    · next hl => simp [hl]
    · next b l hl => simp [hl]
  cases a with
  | push b woken =>
      obtain rfl := Option.some.inj hs
      simp [push, Act.taker]
  | take t =>
      simp only [step] at hs
      split_ifs at hs with ht hi
      · obtain rfl := Option.some.inj hs
        simp [hi]
      · obtain rfl := Option.some.inj hs
        exact hpop t q
  | wake t w =>
      cases w with
      | signal | spurious =>
          simp only [step] at hs
          split_ifs at hs
          obtain rfl := Option.some.inj hs
          rw [hpop, taken_leave, items_leave]
          rfl
      | timeout =>
          simp only [step] at hs
          split_ifs at hs
          obtain rfl := Option.some.inj hs
          simp [Act.taker]

theorem items_step {q q' : BlockingQueue α} {a : Act α} (hs : step a q = some q') :
    q'.items = (if a.taker.isSome then q.items.tail else q.items) ++ a.pushes := by
  have hpop : ∀ (t : ℕ) (p : BlockingQueue α), (popFront t p).items = p.items.tail := by
    intro t p
    unfold popFront
    split
    · next hl => simp [hl]
    · next b l hl => simp [hl]
  cases a with
  | push b woken =>
      obtain rfl := Option.some.inj hs
      rfl
  | take t =>
      simp only [step] at hs
      split_ifs at hs with ht hi
      · obtain rfl := Option.some.inj hs
        simp [Act.pushes, hi]
      · obtain rfl := Option.some.inj hs
        simp [Act.taker, Act.pushes, hpop]
  | wake t w =>
      cases w <;> simp only [step] at hs <;> split_ifs at hs <;>
        obtain rfl := Option.some.inj hs <;> simp [Act.taker, Act.pushes, hpop]

/-! ## Underflow -/

/-- A wait that returns, other than by a timeout, finds the queue non-empty. -/
def WakesNonempty : Act α → BlockingQueue α → Prop
  | .wake _ w, q => w ≠ .timeout → q.items ≠ []
  | _, _ => True

theorem underflow_popFront {t : ℕ} {q : BlockingQueue α} (h : q.items ≠ []) :
    (popFront t q).underflow = q.underflow := by
  unfold popFront
  split
  · next hi => exact absurd hi h
  · rfl

/-- **No take is from an empty queue** if every wait that returns finds it non-empty. -/
theorem no_underflow {q₀ q : BlockingQueue α} (h : Reachable step WakesNonempty q₀ q)
    (h₀ : q₀.underflow = false) : q.underflow = false := by
  refine h.invariant (P := fun q => q.underflow = false) h₀ fun q a q' _ hq hok hs => ?_
  cases a with
  | push a woken =>
      obtain rfl := Option.some.inj hs
      exact hq
  | take t =>
      simp only [step] at hs
      split_ifs at hs with ht hi
      · obtain rfl := Option.some.inj hs
        exact hq
      · obtain rfl := Option.some.inj hs
        rw [underflow_popFront hi, hq]
  | wake t w =>
      have hi : w ≠ .timeout → (leave t q).items ≠ [] := by
        rw [items_leave]; exact hok
      cases w with
      | signal | spurious =>
          simp only [step] at hs
          split_ifs at hs
          obtain rfl := Option.some.inj hs
          rw [underflow_popFront (hi (by decide)), underflow_leave, hq]
      | timeout =>
          simp only [step] at hs
          split_ifs at hs
          obtain rfl := Option.some.inj hs
          rw [underflow_leave, hq]

/-! ## One consumer -/

/-- Only thread `t₀` takes, and its waits return on a signal or a timeout. -/
def SingleConsumer (t₀ : ℕ) : Act α → BlockingQueue α → Prop
  | .push _ _, _ => True
  | .take t, _ => t = t₀
  | .wake t w, _ => t = t₀ ∧ w ≠ .spurious

/-- Only `t₀` waits, once, and when it is signalled the queue is not empty. -/
structure SignalledNonempty (t₀ : ℕ) (q : BlockingQueue α) : Prop where
  mine : ∀ t, t ∈ q.waiting ∨ t ∈ q.notified → t = t₀
  one : q.waiting.length + q.notified.length ≤ 1
  nonempty : q.notified ≠ [] → q.items ≠ []

@[simp] theorem waiting_popFront (t : ℕ) (q : BlockingQueue α) :
    (popFront t q).waiting = q.waiting := by
  unfold popFront; split <;> rfl

@[simp] theorem notified_popFront (t : ℕ) (q : BlockingQueue α) :
    (popFront t q).notified = q.notified := by
  unfold popFront; split <;> rfl

namespace SignalledNonempty

variable {t₀ t : ℕ} {q q' : BlockingQueue α}

theorem of_idle (hw : q.waiting = []) (hn : q.notified = []) : SignalledNonempty t₀ q where
  mine t ht := by simp [hw, hn] at ht
  one := by simp [hw, hn]
  nonempty h := absurd hn h

theorem idle_leave (h : SignalledNonempty t₀ q) (ht : t ∈ q.waiting ∨ t ∈ q.notified) :
    (leave t q).waiting = [] ∧ (leave t q).notified = [] := by
  have hone := h.one
  unfold leave
  split_ifs with hn
  · have hpos := List.length_pos_of_mem hn
    have hw : q.waiting.length = 0 := by omega
    have he : (q.notified.erase t).length = 0 := by rw [List.length_erase_of_mem hn]; omega
    exact ⟨List.eq_nil_of_length_eq_zero hw, List.eq_nil_of_length_eq_zero he⟩
  · have hw := ht.resolve_right hn
    have hpos := List.length_pos_of_mem hw
    have hn : q.notified.length = 0 := by omega
    have he : (q.waiting.erase t).length = 0 := by rw [List.length_erase_of_mem hw]; omega
    exact ⟨List.eq_nil_of_length_eq_zero he, List.eq_nil_of_length_eq_zero hn⟩

theorem step {a : Act α} (h : SignalledNonempty t₀ q) (hok : SingleConsumer t₀ a q)
    (hs : BlockingQueue.step a q = some q') : SignalledNonempty t₀ q' := by
  cases a with
  | push a woken =>
      obtain rfl := Option.some.inj hs
      have hlen := List.length_eq_length_filter_add (l := q.waiting) (· ∈ woken)
      refine ⟨fun t ht => h.mine t ?_, ?_, fun _ => by simp [push]⟩
      · simp only [push, List.mem_append, List.mem_filter] at ht
        tauto
      · have hone := h.one
        simp only [push, List.length_append, decide_not] at hlen ⊢
        omega
  | take t =>
      obtain rfl : t = t₀ := hok
      simp only [BlockingQueue.step] at hs
      split_ifs at hs with ht hi
      all_goals
        obtain rfl := Option.some.inj hs
        rw [not_or] at ht
        have hw : q.waiting = [] := List.eq_nil_iff_forall_not_mem.mpr fun u hu =>
          ht.1 (h.mine u (Or.inl hu) ▸ hu)
        have hn : q.notified = [] := List.eq_nil_iff_forall_not_mem.mpr fun u hu =>
          ht.2 (h.mine u (Or.inr hu) ▸ hu)
      · exact ⟨by simp [hw, hn], by simp [hw, hn], by simp [hn]⟩
      · exact of_idle (by simp [hw]) (by simp [hn])
  | wake t w =>
      have hid : t ∈ q.waiting ∨ t ∈ q.notified → SignalledNonempty t₀ (leave t q) ∧
          SignalledNonempty t₀ (popFront t (leave t q)) := fun ht => by
        obtain ⟨hw, hn⟩ := h.idle_leave ht
        exact ⟨of_idle hw hn, of_idle (by simp [hw]) (by simp [hn])⟩
      cases w with
      | signal =>
          simp only [BlockingQueue.step] at hs
          split_ifs at hs with ht
          obtain rfl := Option.some.inj hs
          exact (hid (Or.inr ht)).2
      | spurious => exact absurd rfl hok.2
      | timeout =>
          simp only [BlockingQueue.step] at hs
          split_ifs at hs with ht
          obtain rfl := Option.some.inj hs
          exact (hid ht).1

end SignalledNonempty

/-- **With one consumer and no spurious wake-up, a wait that returns finds the queue non-empty.** -/
theorem SignalledNonempty.wakesNonempty {t₀ : ℕ} {q q' : BlockingQueue α} {a : Act α}
    (h : SignalledNonempty t₀ q) (hok : SingleConsumer t₀ a q)
    (hs : BlockingQueue.step a q = some q') : WakesNonempty a q := by
  cases a with
  | push | take => trivial
  | wake t w =>
      cases w with
      | signal =>
          simp only [BlockingQueue.step] at hs
          split_ifs at hs with ht
          exact fun _ => h.nonempty (List.ne_nil_of_mem ht)
      | spurious => exact absurd rfl hok.2
      | timeout => exact fun h => absurd rfl h

theorem signalledNonempty (t₀ : ℕ) {q₀ q : BlockingQueue α}
    (h : Reachable step (SingleConsumer t₀) q₀ q) (hw : q₀.waiting = []) (hn : q₀.notified = []) :
    SignalledNonempty t₀ q :=
  h.invariant (.of_idle hw hn) fun _ _ _ _ hq hok hs => hq.step hok hs

theorem wakesNonempty_of_single (t₀ : ℕ) {q₀ q : BlockingQueue α}
    (h : Reachable step (SingleConsumer t₀) q₀ q) (hw : q₀.waiting = []) (hn : q₀.notified = []) :
    Reachable step WakesNonempty q₀ q :=
  h.mono fun _ _ _ hr hok hs => (signalledNonempty t₀ hr hw hn).wakesNonempty hok hs

/-! ## Waiting threads -/

/-- How often thread `t` is in the wait. -/
def waits (t : ℕ) (q : BlockingQueue α) : ℕ := q.waiting.count t + q.notified.count t

theorem waits_eq_zero_iff {t : ℕ} {q : BlockingQueue α} :
    waits t q = 0 ↔ ¬ (t ∈ q.waiting ∨ t ∈ q.notified) := by
  simp [waits, List.count_eq_zero]

@[simp] theorem waits_push (t : ℕ) (a : α) (woken : List ℕ) (q : BlockingQueue α) :
    waits t (push a woken q) = waits t q := by
  simp only [waits, push, List.count_append]
  by_cases h : t ∈ woken
  · simp [List.count_filter, List.count_eq_zero_of_not_mem, h, Nat.add_comm]
  · simp [List.count_filter, List.count_eq_zero_of_not_mem, h]

@[simp] theorem waits_popFront (t u : ℕ) (q : BlockingQueue α) :
    waits t (popFront u q) = waits t q := by
  simp [waits]

theorem waits_leave {t : ℕ} {q : BlockingQueue α} (h : t ∈ q.waiting ∨ t ∈ q.notified) :
    waits t (leave t q) + 1 = waits t q := by
  unfold leave
  split_ifs with hn
  · have hpos := List.count_pos_iff.mpr hn
    simp only [waits, List.count_erase_self]
    omega
  · have hpos := List.count_pos_iff.mpr (h.resolve_right hn)
    simp only [waits, List.count_erase_self]
    omega

theorem waits_leave_le (t u : ℕ) (q : BlockingQueue α) : waits t (leave u q) ≤ waits t q := by
  unfold leave
  split_ifs
  · exact Nat.add_le_add_left (List.erase_sublist.count_le t) _
  · exact Nat.add_le_add_right (List.erase_sublist.count_le t) _

theorem waits_step_le {q q' : BlockingQueue α} {a : Act α} (hs : step a q = some q')
    (hitems : q.items ≠ []) (t : ℕ) : waits t q' ≤ waits t q := by
  cases a with
  | push a woken =>
      obtain rfl := Option.some.inj hs
      rw [waits_push]
  | take u =>
      simp only [step, hitems, if_false] at hs
      split_ifs at hs
      obtain rfl := Option.some.inj hs
      rw [waits_popFront]
  | wake u w =>
      cases w with
      | signal | spurious =>
          simp only [step] at hs
          split_ifs at hs
          obtain rfl := Option.some.inj hs
          rw [waits_popFront]
          exact waits_leave_le t u q
      | timeout =>
          simp only [step] at hs
          split_ifs at hs
          obtain rfl := Option.some.inj hs
          exact waits_leave_le t u q

theorem waits_step_le_one {t : ℕ} {q q' : BlockingQueue α} {a : Act α} (h : waits t q ≤ 1)
    (hs : step a q = some q') : waits t q' ≤ 1 := by
  cases a with
  | push a woken =>
      obtain rfl := Option.some.inj hs
      rwa [waits_push]
  | take u =>
      simp only [step] at hs
      split_ifs at hs with hu hi
      · obtain rfl := Option.some.inj hs
        have hzero := waits_eq_zero_iff.mpr hu
        by_cases ht : t = u
        · subst ht
          simp only [waits, List.count_append, List.count_singleton_self] at hzero ⊢
          omega
        · simpa [waits, List.count_append, List.count_singleton, Ne.symm ht] using h
      · obtain rfl := Option.some.inj hs
        rwa [waits_popFront]
  | wake u w =>
      have hleave := (waits_leave_le t u q).trans h
      cases w with
      | signal | spurious =>
          simp only [step] at hs
          split_ifs at hs
          obtain rfl := Option.some.inj hs
          rwa [waits_popFront]
      | timeout =>
          simp only [step] at hs
          split_ifs at hs
          obtain rfl := Option.some.inj hs
          exact hleave

/-- **A thread is in the wait at most once.** -/
theorem waits_le_one (t : ℕ) {ok : Act α → BlockingQueue α → Prop} {q₀ q : BlockingQueue α}
    (h : Reachable step ok q₀ q) (h₀ : waits t q₀ ≤ 1) : waits t q ≤ 1 :=
  h.invariant (P := fun q => waits t q ≤ 1) h₀ fun _ _ _ _ hq _ hs => waits_step_le_one hq hs

/-! ## Nobody sleeps beside an item -/

/-- A push wakes every thread that waits. -/
def WakesAll : Act α → BlockingQueue α → Prop
  | .push _ woken, q => ∀ t ∈ q.waiting, t ∈ woken
  | .take _, _ | .wake _ _, _ => True

/-- Where there is an item, nobody waits without having been signalled. -/
def AwakeForItems (q : BlockingQueue α) : Prop := q.items ≠ [] → q.waiting = []

namespace AwakeForItems

variable {q q' : BlockingQueue α}

theorem popFront (h : AwakeForItems q) (t : ℕ) : AwakeForItems (popFront t q) := by
  intro hitems
  rw [waiting_popFront]
  apply h
  rintro hempty
  simp [BlockingQueue.popFront, hempty] at hitems

theorem leave (h : AwakeForItems q) (t : ℕ) : AwakeForItems (leave t q) := by
  intro hitems
  rw [items_leave] at hitems
  have hwaiting := h hitems
  unfold BlockingQueue.leave
  split_ifs
  · exact hwaiting
  · rw [hwaiting]
    rfl

theorem step {a : Act α} (h : AwakeForItems q) (hok : WakesAll a q)
    (hs : BlockingQueue.step a q = some q') : AwakeForItems q' := by
  cases a with
  | push a woken =>
      obtain rfl := Option.some.inj hs
      intro _
      have hnone : q.waiting.filter (· ∉ woken) = [] :=
        List.filter_eq_nil_iff.mpr fun t ht => by simpa using hok t ht
      exact hnone
  | take t =>
      simp only [BlockingQueue.step] at hs
      split_ifs at hs with ht hempty
      · obtain rfl := Option.some.inj hs
        exact fun hitems => absurd hempty hitems
      · obtain rfl := Option.some.inj hs
        exact h.popFront t
  | wake t w =>
      cases w with
      | signal | spurious =>
          simp only [BlockingQueue.step] at hs
          split_ifs at hs
          obtain rfl := Option.some.inj hs
          exact (h.leave t).popFront t
      | timeout =>
          simp only [BlockingQueue.step] at hs
          split_ifs at hs
          obtain rfl := Option.some.inj hs
          exact h.leave t

theorem exists_take (h : AwakeForItems q) (hitems : q.items ≠ []) (t : ℕ) :
    (∃ q', BlockingQueue.step (.wake t .signal) q = some q') ∨
      ∃ q', BlockingQueue.step (.take t) q = some q' := by
  by_cases hnotified : t ∈ q.notified
  · left
    exact ⟨_, if_pos hnotified⟩
  · right
    refine ⟨BlockingQueue.popFront t q, ?_⟩
    rw [BlockingQueue.step, h hitems, if_neg (by simp [hnotified]), if_neg hitems]

end AwakeForItems

/-! ## Several consumers -/

/-- There is an item for each thread that is woken: a push does not wake more, a take leaves as many
as there are threads on their way, and a wait returns only after a signal. -/
def EachServed : Act α → BlockingQueue α → Prop
  | .push _ woken, q =>
      q.notified.length + (q.waiting.filter (· ∈ woken)).length ≤ q.items.length + 1
  | .take _, q => q.items ≠ [] → q.notified.length < q.items.length
  | .wake t w, q => w ≠ .timeout → t ∈ q.notified

/-- There is an item for each thread that was woken and is still on its way. -/
def ItemForEach (q : BlockingQueue α) : Prop := q.notified.length ≤ q.items.length

theorem length_items_popFront (t : ℕ) (q : BlockingQueue α) :
    (popFront t q).items.length = q.items.length - 1 := by
  unfold popFront
  split
  · next hl => simp [hl]
  · next b l hl => simp [hl]

theorem length_notified_leave {t : ℕ} {q : BlockingQueue α} (ht : t ∈ q.notified) :
    (leave t q).notified.length + 1 = q.notified.length := by
  have hpos := List.length_pos_of_mem ht
  rw [leave, if_pos ht]
  change (q.notified.erase t).length + 1 = _
  rw [List.length_erase_of_mem ht]
  omega

theorem length_notified_leave_le (t : ℕ) (q : BlockingQueue α) :
    (leave t q).notified.length ≤ q.notified.length := by
  by_cases ht : t ∈ q.notified
  · have hlength := length_notified_leave ht
    omega
  · rw [leave, if_neg ht]

namespace ItemForEach

variable {q q' : BlockingQueue α}

theorem step {a : Act α} (h : ItemForEach q) (hok : EachServed a q)
    (hs : BlockingQueue.step a q = some q') : ItemForEach q' := by
  unfold ItemForEach at h ⊢
  cases a with
  | push a woken =>
      obtain rfl := Option.some.inj hs
      simpa [EachServed, BlockingQueue.push] using hok
  | take t =>
      simp only [BlockingQueue.step] at hs
      split_ifs at hs with ht hitems
      · obtain rfl := Option.some.inj hs
        exact h
      · obtain rfl := Option.some.inj hs
        have hlt := hok hitems
        rw [notified_popFront, length_items_popFront]
        omega
  | wake t w =>
      cases w with
      | signal | spurious =>
          simp only [BlockingQueue.step] at hs
          split_ifs at hs
          obtain rfl := Option.some.inj hs
          have hlength := length_notified_leave (hok (by decide))
          rw [notified_popFront, length_items_popFront, items_leave]
          omega
      | timeout =>
          simp only [BlockingQueue.step] at hs
          split_ifs at hs
          obtain rfl := Option.some.inj hs
          rw [items_leave]
          exact (length_notified_leave_le t q).trans h

theorem wakesNonempty {a : Act α} (h : ItemForEach q) (hok : EachServed a q) :
    WakesNonempty a q := by
  cases a with
  | push | take => trivial
  | wake t w =>
      intro hw hitems
      have hpos := List.length_pos_of_mem (hok hw)
      rw [ItemForEach, hitems, List.length_nil] at h
      omega

end ItemForEach

/-- **Several consumers find the queue non-empty**, as long as there is an item for each that is
woken. -/
theorem wakesNonempty_of_served {q₀ q : BlockingQueue α} (h : Reachable step EachServed q₀ q)
    (hn : q₀.notified = []) : Reachable step WakesNonempty q₀ q := by
  have hinit : ItemForEach q₀ := by simp [ItemForEach, hn]
  exact h.mono fun a q _ hr hok _ => (hr.invariant hinit fun _ _ _ _ hi hok hs =>
    hi.step hok hs : ItemForEach q).wakesNonempty hok

theorem SignalledNonempty.eachServed {t₀ : ℕ} {q q' : BlockingQueue α} {a : Act α}
    (h : SignalledNonempty t₀ q) (hok : SingleConsumer t₀ a q)
    (hs : BlockingQueue.step a q = some q') : EachServed a q := by
  have hone := h.one
  cases a with
  | push a woken =>
      have hfilter := List.length_filter_le (· ∈ woken) q.waiting
      simp only [EachServed]
      omega
  | take t =>
      obtain rfl : t = t₀ := hok
      simp only [BlockingQueue.step] at hs
      split_ifs at hs with ht hitems
      · exact fun h => absurd hitems h
      · intro _
        have hnone : q.notified = [] := List.eq_nil_iff_forall_not_mem.mpr fun u hu =>
          ht (.inr (h.mine u (.inr hu) ▸ hu))
        rw [hnone]
        exact List.length_pos_iff.mpr hitems
  | wake t w =>
      intro hw
      cases w with
      | signal =>
          simp only [BlockingQueue.step] at hs
          split_ifs at hs with ht
          exact ht
      | spurious => exact absurd rfl hok.2
      | timeout => exact absurd rfl hw

/-- A thread that was woken returns from its wait. -/
def WokenRuns : Act α → BlockingQueue α → Prop
  | .wake _ w, _ => w = .signal
  | .push _ _, _ | .take _, _ => False

/-- **With fewer items than woken threads** these alone come to take from the empty queue. -/
theorem exists_underflow {q : BlockingQueue α} (h : q.items.length < q.notified.length) :
    ∃ q', Reachable step WokenRuns q q' ∧ q'.underflow = true := by
  generalize hitems : q.items = items at h
  induction items generalizing q with
  | nil =>
      obtain ⟨t, ht⟩ := List.exists_mem_of_length_pos h
      refine ⟨_, Reachable.refl.tail (a := .wake t .signal) rfl (if_pos ht), ?_⟩
      rw [popFront, items_leave, hitems]
  | cons b items ih =>
      obtain ⟨t, ht⟩ := List.exists_mem_of_length_pos (Nat.zero_lt_of_lt h)
      have hlength := length_notified_leave ht
      have hpop : (popFront t (leave t q)).items = items := by
        rw [popFront, items_leave, hitems]
      have hlt : items.length < (popFront t (leave t q)).notified.length := by
        rw [notified_popFront]
        simp only [List.length_cons] at h
        omega
      obtain ⟨q', hr, hunderflow⟩ := ih hpop hlt
      exact ⟨q', hr.head ⟨.wake t .signal, rfl, if_pos ht⟩, hunderflow⟩

/-- **A step after which a thread has no item** leads to a take from the empty queue. -/
theorem exists_underflow_of_not_served {q q' : BlockingQueue α} {a : Act α}
    (h : AwakeForItems q) (hs : BlockingQueue.step a q = some q') (hnot : ¬ EachServed a q) :
    ∃ q'', Reachable step WokenRuns q' q'' ∧ q''.underflow = true := by
  cases a with
  | push a woken =>
      obtain rfl := Option.some.inj hs
      apply exists_underflow
      simp only [EachServed, not_le] at hnot
      simpa [push] using hnot
  | take t =>
      obtain ⟨hitems, hle⟩ := not_forall.mp hnot
      simp only [BlockingQueue.step] at hs
      split_ifs at hs with ht
      obtain rfl := Option.some.inj hs
      apply exists_underflow
      have hpos := List.length_pos_iff.mpr hitems
      rw [notified_popFront, length_items_popFront]
      omega
  | wake t w =>
      obtain ⟨hw, hnotified⟩ := not_forall.mp hnot
      cases w with
      | signal =>
          rw [BlockingQueue.step, if_neg hnotified] at hs
          cases hs
      | timeout => exact absurd rfl hw
      | spurious =>
          simp only [BlockingQueue.step] at hs
          split_ifs at hs with ht
          obtain rfl := Option.some.inj hs
          have hwaiting := ht.resolve_right hnotified
          have hempty : q.items = [] := by
            by_contra hitems
            rw [h hitems] at hwaiting
            cases hwaiting
          refine ⟨_, Reachable.refl, ?_⟩
          rw [popFront, items_leave, hempty]

end BlockingQueue
