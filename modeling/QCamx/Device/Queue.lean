import QCamx.Device.Fails
import QCamx.Device.Stages

/-!
# The result queue

The queue of the result thread is a `BlockingQueue` with one consumer, so what the library says of
such queues holds of it: it is first in, first out, and the consumer finds an element unless a wait
returns for no reason.

* **`Step.messageQueue`**: every step of the device is a step of the queue or leaves it alone;
* `wakeFindsMessage_of_signalled`: a wait that returns on a signal finds a message;
* **`pops_nonempty`**: no consumer pops an empty queue where there is an element for each thread
  that is woken, as there always is for one.
-/

namespace QCamx

open Guarded

namespace Device

variable {cfg : Setup} {s s' : Device}

/-! ## The device's queue as a blocking queue -/

/-- An action of the device may act on its result queue by `act`. -/
def ActsOnQueue (a : Act) (act : BlockingQueue.Act CameraPostProcessMsg) : Prop :=
  (∃ msg woken, act = .push msg woken) ∨ ∃ r, a = .result r ∧ takeAct r = some act

/-- **Every step is a step of the result queue or leaves it alone.** -/
theorem Step.messageQueue {a : Act} (hs : Step cfg s a s') :
    s'.resultThread.messageQueue = s.resultThread.messageQueue ∨
      ∃ act, ActsOnQueue a act ∧
        BlockingQueue.step act s.resultThread.messageQueue =
          some s'.resultThread.messageQueue := by
  cases hs with
  | request hs => exact Or.inl (by rw [hs.frame.resultThread])
  | hal hs =>
      cases hs with
      | push => exact Or.inr ⟨.push _ _, Or.inl ⟨_, _, rfl⟩, rfl⟩
      | _ => exact Or.inl rfl
  | result hs =>
      cases hs with
      | wait hpc hheld hact hq => exact Or.inr ⟨_, Or.inr ⟨_, rfl, hact⟩, hq⟩
      | wakeEmpty hpc hheld hw hq => exact Or.inr ⟨_, Or.inr ⟨_, rfl, rfl⟩, hq⟩
      | popStop hpc hheld ha hact hq => exact Or.inr ⟨_, Or.inr ⟨_, rfl, hact⟩, hq⟩
      | pop hpc hheld ha hact hq => exact Or.inr ⟨_, Or.inr ⟨_, rfl, hact⟩, hq⟩
      | @callback msg b rest effects caseState hpc heff =>
          obtain ⟨managers, encoder, he⟩ := foldl_applyEffect effects s
          rw [he]
          exact Or.inl rfl
      | _ => exact Or.inl rfl
  | encoderReturn ht => exact Or.inl rfl
  | stop hs =>
      cases hs with
      | postResult => exact Or.inr ⟨.push _ _, Or.inl ⟨_, _, rfl⟩, rfl⟩
      | _ => exact Or.inl rfl
  | user hs => exact Or.inl (by rw [hs.frame.resultThread])

theorem reachable_messageQueue {ok : Act → Device → Prop}
    {ok' : BlockingQueue.Act CameraPostProcessMsg → BlockingQueue CameraPostProcessMsg → Prop}
    (h : Run cfg ok s)
    (hok : ∀ s a act, ok a s → ActsOnQueue a act → ok' act s.resultThread.messageQueue) :
    Reachable BlockingQueue.step ok' cfg.init.resultThread.messageQueue
      s.resultThread.messageQueue := by
  obtain ⟨q, rfl, hq⟩ := Reachable.simulate
    (R := fun (s : Device) q => s.resultThread.messageQueue = q) h rfl
    fun s a s' q _ _ hR ha hs => by
      subst hR
      rcases (Step.of_eq hs).2.messageQueue with he | ⟨act, hact, hq⟩
      · exact ⟨_, rfl, Or.inl he⟩
      · exact ⟨_, rfl, Or.inr ⟨act, hok s a act ha hact, hq⟩⟩
  exact hq

/-! ## Pops -/

/-- A wait of the result thread that returns `0` finds a message. -/
def ResultWakeFindsMessage : Act → Device → Prop
  | .result (.wake w), s => w ≠ .timeout → s.resultThread.messageQueue.items ≠ []
  | _, _ => True

instance (a : Act) (s : Device) : Decidable (ResultWakeFindsMessage a s) := by
  unfold ResultWakeFindsMessage
  split <;> infer_instance

theorem fault_ne_emptyResultQueue {ok : Act → Device → Prop} (h : Run cfg ok s)
    (hok : ∀ s a s', Run cfg ok s → ok a s → Step cfg s a s' → ResultWakeFindsMessage a s) :
    s.fault ≠ some .emptyResultQueue := by
  refine h.fault_ne fun s a s' hr ha hs hfails => ?_
  have hfinds := hok s a s' hr ha hs
  cases hfails with
  | emptyResultQueue hw hitems => exact hfinds hw hitems

/-- The waits of the result thread return on a signal or a timeout. -/
def ResultWaitSignalled : Act → Device → Prop
  | .result (.wake w), _ => w ≠ .spurious
  | _, _ => True

instance (a : Act) (s : Device) : Decidable (ResultWaitSignalled a s) := by
  unfold ResultWaitSignalled
  split <;> infer_instance

theorem singleConsumer_of_signalled {a : Act}
    {act : BlockingQueue.Act CameraPostProcessMsg} (hok : ResultWaitSignalled a s)
    (hact : ActsOnQueue a act) :
    BlockingQueue.SingleConsumer 0 act s.resultThread.messageQueue := by
  rcases hact with ⟨msg, woken, rfl⟩ | ⟨r, rfl, hr⟩
  · trivial
  · cases r with
    | take =>
        obtain rfl := Option.some.inj hr
        rfl
    | wake w =>
        obtain rfl := Option.some.inj hr
        exact ⟨rfl, hok⟩
    | callback | giveBack => cases hr

/-- **A wait that returns on a signal finds a message.** -/
theorem wakeFindsMessage_of_signalled {ok : Act → Device → Prop}
    (hok : ∀ a s, ok a s → ResultWaitSignalled a s) (hr : Run cfg ok s) {a : Act} (ha : ok a s)
    (hs : Step cfg s a s') : ResultWakeFindsMessage a s := by
  have hq := BlockingQueue.signalledNonempty 0
    (reachable_messageQueue hr fun s a act ha hact =>
      singleConsumer_of_signalled (hok a s ha) hact) rfl rfl
  have hok' := hok a s ha
  cases a with
  | result r =>
      cases r with
      | wake w =>
          intro hw
          have hwake : ∀ {q}, BlockingQueue.step (.wake 0 w) s.resultThread.messageQueue = some q →
              s.resultThread.messageQueue.items ≠ [] := fun hstep =>
            @BlockingQueue.SignalledNonempty.wakesNonempty _ 0 _ _ (.wake 0 w) hq ⟨rfl, hok'⟩
              hstep hw
          cases hs with
          | result hs =>
              cases hs with
              | wait hpc hheld hact hstep =>
                  obtain rfl := Option.some.inj hact
                  exact hwake hstep
              | wakeEmpty hpc hheld hw hstep => exact hwake hstep
              | popStop hpc hheld ha hact hstep hitems | pop hpc hheld ha hact hstep hitems =>
                  simp [hitems]
      | _ => trivial
  | _ => trivial

/-- **No consumer pops an empty queue, and no buffer is held twice.** Any number of threads on a
`QCamxBufferManager` pop a free buffer where there is one for each of them that is woken, which is
always so with one getting thread; where there is none, one of them comes to an empty pop. The
result thread of a device finds a message after every wait that returns on a signal. -/
theorem pops_nonempty {allocated : List Buffer} {m : BufferManager} (hn : allocated.Nodup)
    (hm : Reachable BufferManager.step BufferManager.Orderly (.allocateBuffers allocated) m)
    (hr : Run cfg ResultWaitSignalled s) :
    (m.buffersFree.underflow = false ∧ (m.held.map Prod.snd).Nodup) ∧
      (∀ t₀ m₁, Reachable BufferManager.step (BufferManager.SingleGetter t₀)
        (.allocateBuffers allocated) m₁ →
        Reachable BufferManager.step BufferManager.EachWokenServed (.allocateBuffers allocated) m₁ ∧
          m₁.buffersFree.underflow = false) ∧
      (∀ a m₁ m₂, Reachable BufferManager.step BufferManager.HeldReturn
        (.allocateBuffers allocated) m₁ → BufferManager.step a m₁ = some m₂ →
        ¬ BufferManager.EachWokenServed a m₁ →
        ∃ m₃, Reachable BufferManager.step BufferManager.WokenRuns m₂ m₃ ∧
          m₃.buffersFree.underflow = true) ∧
      s.resultThread.messageQueue.underflow = false ∧ s.fault ≠ some .emptyResultQueue := by
  refine ⟨⟨?_, ?_⟩, fun t₀ m₁ h => ?_,
    fun _ _ _ h hs hnot => BufferManager.exists_empty_pop h hs hnot, ?_, ?_⟩
  · exact BufferManager.getBuffer_nonempty hm fun _ _ hok => hok.1
  · exact BufferManager.nodup_held (BufferManager.perm_allocated hm fun _ _ hok => hok.2) hn
  · have hserved := BufferManager.served_of_single h
    exact ⟨hserved, BufferManager.getBuffer_nonempty hserved fun _ _ => id⟩
  · have hqueue := reachable_messageQueue hr fun s a act ha hact =>
      singleConsumer_of_signalled ha hact
    exact BlockingQueue.no_underflow (BlockingQueue.wakesNonempty_of_single 0 hqueue rfl rfl) rfl
  · exact fault_ne_emptyResultQueue hr fun s a s' hr ha hs =>
      wakeFindsMessage_of_signalled (fun _ _ => id) hr ha hs

/-- A thread waits on a manager of two buffers and another overtakes it, but leaves one for it; the
result thread waits for the result that it delivers. -/
theorem pops_of_two_getters_and_a_result :
    (∃ m, Reachable BufferManager.step BufferManager.Orderly (.allocateBuffers [0, 1]) m ∧
      m.buffersFree.taken = [(0, 0), (0, 1), (2, 0), (1, 1)] ∧ m.buffersFree.underflow = false ∧
      (m.held.map Prod.snd).Nodup) ∧
    ∃ s, Run (previewSetup 1) ResultWaitSignalled s ∧ s.log.delivered = [resultZero] ∧
      s.resultThread.messageQueue.underflow = false ∧ s.fault ≠ some .emptyResultQueue := by
  obtain ⟨m, hm, htaken⟩ : ∃ m, Reachable BufferManager.step BufferManager.Orderly
      (.allocateBuffers [0, 1]) m ∧ m.buffersFree.taken = [(0, 0), (0, 1), (2, 0), (1, 1)] :=
    Reachable.exists_of_exec [.getBuffer 0, .getBuffer 0, .getBuffer 1, .returnBuffer 0,
      .returnBuffer 1, .getBuffer 2, .wake 1 .signal] (by decide +kernel)
  obtain ⟨s, hs, hdelivered⟩ : ∃ s, Run (previewSetup 1) ResultWaitSignalled s ∧
      s.log.delivered = [resultZero] :=
    Run.exists_of_exec ([.result .take] ++ acceptRequest ++ deliverResult resultZero ++
      [.result (.wake .signal)]) (by decide +kernel)
  obtain ⟨⟨hunderflow, hnodup⟩, -, -, hresult⟩ := pops_nonempty (by simp) hm hs
  exact ⟨⟨m, hm, htaken, hunderflow, hnodup⟩, s, hs, hdelivered, hresult⟩

/-- Two getters wait, one return wakes both, and the second pops an empty free list; and the wait
of the result thread returns for no reason. -/
theorem empty_pops :
    (∃ m, Reachable BufferManager.step BufferManager.HeldReturn (.allocateBuffers [0]) m ∧
      m.buffersFree.underflow = true) ∧
    ∃ s, Run (previewSetup 1) HalContract s ∧ s.fault = some .emptyResultQueue := by
  refine ⟨?_, ?_⟩
  · exact Reachable.exists_of_exec [.getBuffer 1, .getBuffer 2, .getBuffer 3, .returnBuffer 0,
      .wake 2 .signal, .wake 3 .signal] (by decide +kernel)
  · exact Run.exists_of_exec [.result .take, .result (.wake .spurious)] (by decide +kernel)

end Device

end QCamx
