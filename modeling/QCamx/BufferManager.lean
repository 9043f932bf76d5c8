import QCamx.Define
import QCamx.Lib.BlockingQueue

/-!
# `QCamxBufferManager`: `get_buffer` and `return_buffer` from any number of threads

`get_buffer` waits once, without a timeout, where no buffer is free, and pops the front when the
wait returns; `return_buffer` appends and wakes every waiting thread. This is a `BlockingQueue`
whose pushes wake all; `held` adds which thread was handed which buffer and has not returned it.

* `BufferManager.step`, the guard `HeldReturn` (only a held buffer is returned);
* **`perm_allocated`**: the free and the held buffers are the allocated ones;
* **`getBuffer_nonempty`**: no pop is from an empty free list if there is a buffer for each thread
  that `notify_all` wakes;
* **`served_of_single`**: so it is with one getting thread and no spurious wake-up;
* **`exists_empty_pop`**: any other step lets a thread that is woken pop from an empty free list.
-/

namespace QCamx

open Guarded

structure BufferManager where
  buffersFree : BlockingQueue Buffer
  held : List (ℕ × Buffer) := []

namespace BufferManager

/-- The manager after `allocate_buffers`. -/
def allocateBuffers (allocated : List Buffer) : BufferManager where
  buffersFree := { items := allocated }

inductive Act
  | getBuffer (t : ℕ)
  | wake (t : ℕ) (w : Wake)
  | returnBuffer (b : Buffer)

/-- The manager whose free list a getting thread has moved on to `q`. -/
def afterGet (m : BufferManager) (q : BlockingQueue Buffer) : BufferManager where
  buffersFree := q
  held := m.held ++ q.taken.drop m.buffersFree.taken.length

/-- `return_buffer`: append, and `notify_all`. -/
def returnBuffer (m : BufferManager) (b : Buffer) : BufferManager where
  buffersFree := m.buffersFree.push b m.buffersFree.waiting
  held := m.held.eraseP (·.2 = b)

def step : Act → BufferManager → Option BufferManager
  | .getBuffer t, m => (BlockingQueue.step (.take t) m.buffersFree).map m.afterGet
  | .wake _ .timeout, _ => none
  | .wake t .signal, m => (BlockingQueue.step (.wake t .signal) m.buffersFree).map m.afterGet
  | .wake t .spurious, m => (BlockingQueue.step (.wake t .spurious) m.buffersFree).map m.afterGet
  | .returnBuffer b, m => some (m.returnBuffer b)

/-- Only a buffer that is held is returned. -/
def HeldReturn : Act → BufferManager → Prop
  | .returnBuffer b, m => b ∈ m.held.map Prod.snd
  | _, _ => True

/-- There is a free buffer for each thread that is woken: `notify_all` wakes no more than there are
buffers for, who does not wait leaves as many as there are threads on their way, and a wait returns
only after a notification. -/
def EachWokenServed : Act → BufferManager → Prop
  | .getBuffer _, m =>
      m.buffersFree.items ≠ [] → m.buffersFree.notified.length < m.buffersFree.items.length
  | .wake t _, m => t ∈ m.buffersFree.notified
  | .returnBuffer _, m =>
      m.buffersFree.notified.length + m.buffersFree.waiting.length ≤
        m.buffersFree.items.length + 1

/-- Only thread `t₀` gets buffers, and its wait returns on a notification. -/
def SingleGetter (t₀ : ℕ) : Act → BufferManager → Prop
  | .getBuffer t, _ => t = t₀
  | .wake t w, _ => t = t₀ ∧ w ≠ .spurious
  | .returnBuffer _, _ => True

/-- There is a buffer for each thread that is woken, and only held buffers are returned. -/
def Orderly (a : Act) (m : BufferManager) : Prop := EachWokenServed a m ∧ HeldReturn a m

instance (a : Act) (m : BufferManager) : Decidable (HeldReturn a m) := by
  cases a <;> unfold HeldReturn <;> infer_instance

instance (a : Act) (m : BufferManager) : Decidable (EachWokenServed a m) := by
  cases a <;> unfold EachWokenServed <;> infer_instance

instance (a : Act) (m : BufferManager) : Decidable (Orderly a m) := by
  unfold Orderly; infer_instance

/-! ## The manager is a blocking queue -/

/-- The action of the blocking queue behind an action of the manager. -/
def Act.toQueue (m : BufferManager) : Act → BlockingQueue.Act Buffer
  | .getBuffer t => .take t
  | .wake t w => .wake t w
  | .returnBuffer b => .push b m.buffersFree.waiting

/-- **Every step of the manager is a step of the blocking queue.** -/
theorem step_toQueue {a : Act} {m m' : BufferManager} (hs : step a m = some m') :
    BlockingQueue.step (a.toQueue m) m.buffersFree = some m'.buffersFree := by
  cases a with
  | getBuffer t =>
      obtain ⟨q, hq, rfl⟩ := Option.map_eq_some_iff.mp hs
      exact hq
  | wake t w =>
      cases w with
      | signal | spurious =>
          obtain ⟨q, hq, rfl⟩ := Option.map_eq_some_iff.mp hs
          exact hq
      | timeout => simp [step] at hs
  | returnBuffer b =>
      obtain rfl := Option.some.inj hs
      rfl

theorem items_getBuffer {t : ℕ} {w : Wake} {a : Act} {m m' : BufferManager}
    (ha : a = .getBuffer t ∨ a = .wake t w) (hs : step a m = some m') :
    m'.buffersFree.items = m.buffersFree.items.tail := by
  have hi := BlockingQueue.items_step (step_toQueue hs)
  rcases ha with rfl | rfl
  · simpa [Act.toQueue, BlockingQueue.Act.taker, BlockingQueue.Act.pushes] using hi
  · cases w with
    | signal | spurious =>
        simpa [Act.toQueue, BlockingQueue.Act.taker, BlockingQueue.Act.pushes] using hi
    | timeout => simp [step] at hs

theorem reachable_toQueue {ok : Act → BufferManager → Prop}
    {ok' : BlockingQueue.Act Buffer → BlockingQueue Buffer → Prop} {m₀ m : BufferManager}
    (h : Reachable step ok m₀ m)
    (hok : ∀ a m m', ok a m → step a m = some m' → ok' (a.toQueue m) m.buffersFree) :
    Reachable BlockingQueue.step ok' m₀.buffersFree m.buffersFree := by
  obtain ⟨q, rfl, hq⟩ := h.simulate (R := fun m q => m.buffersFree = q) rfl
    fun m a m' q _ _ hR ha hs =>
      ⟨m'.buffersFree, rfl, Or.inr ⟨a.toQueue m, hR ▸ hok a m m' ha hs, hR ▸ step_toQueue hs⟩⟩
  exact hq

/-! ## Free and held buffers -/

/-- The free and the held buffers are the allocated ones. -/
def Conserves (allocated : List Buffer) (m : BufferManager) : Prop :=
  (m.buffersFree.items ++ m.held.map Prod.snd).Perm allocated

theorem Conserves.afterGet {allocated : List Buffer} {m : BufferManager}
    {q : BlockingQueue Buffer} (h : m.Conserves allocated)
    (hq : (q.items = m.buffersFree.items ∧ q.taken = m.buffersFree.taken) ∨
      ∃ t b, m.buffersFree.items = b :: q.items ∧ q.taken = m.buffersFree.taken ++ [(t, b)]) :
    (m.afterGet q).Conserves allocated := by
  unfold Conserves at h ⊢
  rcases hq with ⟨hi, ht⟩ | ⟨t, b, hi, ht⟩
  · simpa [BufferManager.afterGet, hi, ht] using h
  · rw [hi] at h
    refine List.Perm.trans ?_ h
    rw [BufferManager.afterGet, ht, List.drop_left, List.map_append, ← List.append_assoc]
    exact List.perm_append_singleton _ _

theorem Conserves.step {allocated : List Buffer} {a : Act} {m m' : BufferManager}
    (h : m.Conserves allocated) (hok : HeldReturn a m) (hs : step a m = some m') :
    m'.Conserves allocated := by
  have hget : ∀ {a : BlockingQueue.Act Buffer}, (∀ b woken, a ≠ .push b woken) →
      (BlockingQueue.step a m.buffersFree).map m.afterGet = some m' → m'.Conserves allocated := by
    intro a ha hs
    obtain ⟨q, hq, rfl⟩ := Option.map_eq_some_iff.mp hs
    rcases BlockingQueue.step_cases hq with ⟨b, woken, hpush, -⟩ | hq
    · exact absurd hpush (ha b woken)
    · exact h.afterGet hq
  cases a with
  | getBuffer t => exact hget (by simp) hs
  | wake t w =>
      cases w with
      | signal | spurious => exact hget (by simp) hs
      | timeout => simp [BufferManager.step] at hs
  | returnBuffer b =>
      obtain rfl := Option.some.inj hs
      unfold Conserves at h ⊢
      have he : (m.held.eraseP (·.2 = b)).map Prod.snd = (m.held.map Prod.snd).erase b := by
        rw [List.erase_eq_eraseP', List.eraseP_map]
        rfl
      rw [BufferManager.returnBuffer, BlockingQueue.push, he, List.append_assoc,
        List.singleton_append]
      exact ((List.perm_cons_erase hok).symm.append_left _).trans h

/-- **No buffer is lost or handed out twice**, whatever the waits do. -/
theorem perm_allocated {ok : Act → BufferManager → Prop} {allocated : List Buffer}
    {m : BufferManager} (h : Reachable step ok (allocateBuffers allocated) m)
    (hok : ∀ a m, ok a m → HeldReturn a m) : m.Conserves allocated :=
  h.invariant (by simp [Conserves, allocateBuffers])
    fun _ a _ _ hm ha hs => hm.step (hok a _ ha) hs

theorem nodup_held {allocated : List Buffer} {m : BufferManager} (h : m.Conserves allocated)
    (hn : allocated.Nodup) : (m.held.map Prod.snd).Nodup :=
  (List.nodup_append.mp (h.nodup_iff.mpr hn)).2.1

/-! ## The pop after the wait -/

theorem eachWokenServed_iff {a : Act} {m m' : BufferManager} (hs : step a m = some m') :
    EachWokenServed a m ↔ BlockingQueue.EachServed (a.toQueue m) m.buffersFree := by
  cases a with
  | getBuffer t => exact Iff.rfl
  | wake t w =>
      cases w with
      | signal | spurious => simp [EachWokenServed, Act.toQueue, BlockingQueue.EachServed]
      | timeout => simp [step] at hs
  | returnBuffer b =>
      have hall : m.buffersFree.waiting.filter (· ∈ m.buffersFree.waiting) =
          m.buffersFree.waiting := List.filter_eq_self.mpr (by simp)
      rw [EachWokenServed, Act.toQueue, BlockingQueue.EachServed, hall]

/-- **No pop is from an empty free list** if there is a buffer for each thread that is woken. -/
theorem getBuffer_nonempty {ok : Act → BufferManager → Prop} {allocated : List Buffer}
    {m : BufferManager} (h : Reachable step ok (allocateBuffers allocated) m)
    (hok : ∀ a m, ok a m → EachWokenServed a m) : m.buffersFree.underflow = false :=
  BlockingQueue.no_underflow (BlockingQueue.wakesNonempty_of_served
    (reachable_toQueue h fun a m _ ha hs => (eachWokenServed_iff hs).mp (hok a m ha)) rfl) rfl

theorem singleConsumer_toQueue {t₀ : ℕ} {a : Act} {m : BufferManager} (ha : SingleGetter t₀ a m) :
    BlockingQueue.SingleConsumer t₀ (a.toQueue m) m.buffersFree := by
  cases a with
  | getBuffer t => exact ha
  | wake t w => exact ha
  | returnBuffer => trivial

/-- **For one getting thread that is woken by notifications only there always is a buffer.** -/
theorem served_of_single {t₀ : ℕ} {allocated : List Buffer} {m : BufferManager}
    (h : Reachable step (SingleGetter t₀) (allocateBuffers allocated) m) :
    Reachable step EachWokenServed (allocateBuffers allocated) m := by
  refine h.mono fun a m m' hr hok hs => (eachWokenServed_iff hs).mpr ?_
  have hqueue : Reachable BlockingQueue.step (BlockingQueue.SingleConsumer t₀)
      (allocateBuffers allocated).buffersFree m.buffersFree :=
    reachable_toQueue hr fun _ _ _ ha _ => singleConsumer_toQueue ha
  exact (BlockingQueue.signalledNonempty t₀ hqueue rfl rfl).eachServed
    (singleConsumer_toQueue hok) (step_toQueue hs)

/-- A thread that was notified returns from its wait. -/
def WokenRuns : Act → BufferManager → Prop
  | .wake _ w, _ => w = .signal
  | .getBuffer _, _ | .returnBuffer _, _ => False

theorem awakeForItems {ok : Act → BufferManager → Prop} {allocated : List Buffer}
    {m : BufferManager} (h : Reachable step ok (allocateBuffers allocated) m) :
    BlockingQueue.AwakeForItems m.buffersFree := by
  have hq : Reachable BlockingQueue.step BlockingQueue.WakesAll
      (allocateBuffers allocated).buffersFree m.buffersFree := by
    refine reachable_toQueue h fun a m m' _ _ => ?_
    cases a with
    | getBuffer | wake => trivial
    | returnBuffer b => exact fun t ht => ht
  exact hq.invariant (fun _ => rfl) fun _ _ _ _ hi hok hs => hi.step hok hs

/-- **A step after which a thread that is woken has no buffer** leads to a pop from the empty free
list, by the threads that are on their way. -/
theorem exists_empty_pop {ok : Act → BufferManager → Prop} {allocated : List Buffer}
    {a : Act} {m m' : BufferManager} (h : Reachable step ok (allocateBuffers allocated) m)
    (hs : step a m = some m') (hnot : ¬ EachWokenServed a m) :
    ∃ m'', Reachable step WokenRuns m' m'' ∧ m''.buffersFree.underflow = true := by
  rw [eachWokenServed_iff hs] at hnot
  obtain ⟨q, hq, hunderflow⟩ :=
    BlockingQueue.exists_underflow_of_not_served (awakeForItems h) (step_toQueue hs) hnot
  have hmatch : ∃ m'' : BufferManager, m''.buffersFree = q ∧ Reachable step WokenRuns m' m'' := by
    refine hq.simulate (R := fun q (m : BufferManager) => m.buffersFree = q) rfl
      fun q a q' m _ _ hm ha hs => ?_
    subst hm
    cases a with
    | push | take => exact ha.elim
    | wake t w =>
        obtain rfl := ha
        exact ⟨m.afterGet q', rfl, .inr ⟨.wake t .signal, rfl, by rw [step, hs]; rfl⟩⟩
  obtain ⟨m'', rfl, hr⟩ := hmatch
  exact ⟨m'', hr, hunderflow⟩

end BufferManager

end QCamx
