import QCamx.Device.Queue

/-!
# Delivery of the results

Two facts tie the result queue to the results: what was pushed are the results that found the
`stopped` flag clear, then the stop message; what was taken are the delivered results, then the stop
message. As the queue is first in, first out, the delivered results are a prefix of those that found
the flag clear, and all of them once the stop message has been taken.

* `Messages`, `DeliveryInv`: the two facts;
* **`delivered_in_order`**: the sequence of the delivered results.
-/

namespace QCamx

open Guarded

/-- The message by which `stop_streams` ends the result thread. -/
def stopMsg : CameraPostProcessMsg := ⟨⟨0, [], 0⟩, [], true⟩

/-- The result a message stands for, with the message's own buffers. -/
def asResult (msg : CameraPostProcessMsg) : CaptureResult :=
  { msg.result with outputBuffers := msg.streamBuffers }

/-- A history of the queue: messages that stand for `rs`, then the stop message if `stop`. -/
def Messages (msgs : List CameraPostProcessMsg) (rs : List CaptureResult) (stop : Bool) : Prop :=
  ∃ l, msgs = l ++ (if stop then [stopMsg] else []) ∧ (∀ msg ∈ l, msg.stop = false) ∧
    l.map asResult = rs

namespace Messages

variable {msgs : List CameraPostProcessMsg} {rs : List CaptureResult} {stop : Bool}

theorem append (h : Messages msgs rs false) (msg : CameraPostProcessMsg) (hmsg : msg.stop = false) :
    Messages (msgs ++ [msg]) (rs ++ [asResult msg]) false := by
  obtain ⟨l, rfl, hl, rfl⟩ := h
  refine ⟨l ++ [msg], by simp, fun m hm => ?_, by simp⟩
  rcases List.mem_append.mp hm with hm | hm
  · exact hl m hm
  · obtain rfl := List.mem_singleton.mp hm
    exact hmsg

theorem append_stop (h : Messages msgs rs false) : Messages (msgs ++ [stopMsg]) rs true := by
  obtain ⟨l, rfl, hl, rfl⟩ := h
  exact ⟨l, by simp, hl, rfl⟩

theorem results (h : Messages msgs rs stop) :
    (msgs.filter fun msg => !msg.stop).map asResult = rs := by
  obtain ⟨l, rfl, hl, rfl⟩ := h
  have hfilter : l.filter (fun msg => !msg.stop) = l :=
    List.filter_eq_self.mpr fun msg hm => by simp [hl msg hm]
  rw [List.filter_append, hfilter]
  split_ifs <;> simp [stopMsg]

theorem eq_stopMsg (h : Messages msgs rs stop) {msg : CameraPostProcessMsg} (hmem : msg ∈ msgs)
    (hmsg : msg.stop = true) : msg = stopMsg ∧ stop = true := by
  obtain ⟨l, rfl, hl, rfl⟩ := h
  rcases List.mem_append.mp hmem with hmem | hmem
  · rw [hl msg hmem] at hmsg
    cases hmsg
  · split_ifs at hmem with hstop
    · exact ⟨List.mem_singleton.mp hmem, hstop⟩
    · cases hmem

theorem eq_nil_of_stop {l : List CameraPostProcessMsg}
    (h : Messages (msgs ++ [stopMsg] ++ l) rs stop) : l = [] := by
  obtain ⟨l', he, hl', -⟩ := h
  rcases List.eq_nil_or_concat l with rfl | ⟨l₀, msg, rfl⟩
  · rfl
  · -- otherwise the stop message is one of those before the end
    have hmem : stopMsg ∈ l' := by
      split_ifs at he
      · rw [List.concat_eq_append, ← List.append_assoc] at he
        rw [← (List.append_inj' he rfl).1]
        simp
      · rw [List.append_nil] at he
        rw [← he]
        simp
    have hstop := hl' stopMsg hmem
    cases hstop

end Messages

namespace Device

variable {cfg : Setup} {s s' : Device}

/-- The results that found the `stopped` flag clear. -/
def accepted (s : Device) : List CaptureResult :=
  (s.log.arrivals.filter fun p => !p.2).map Prod.fst

/-- What was pushed and what was taken, in terms of results. -/
structure DeliveryInv (s : Device) : Prop where
  pushed : Messages s.resultThread.messageQueue.pushed s.accepted s.resultThread.stopped
  taken : Messages (s.resultThread.messageQueue.taken.map Prod.snd) s.log.delivered
    (s.resultPc = .exited)
  exited : s.resultPc = .exited → s.resultThread.stopped = true

theorem pushes_takeAct {a : ResultAct} {act : BlockingQueue.Act CameraPostProcessMsg}
    (h : takeAct a = some act) : act.pushes = [] := by
  cases a with
  | take | wake =>
      obtain rfl := Option.some.inj h
      rfl
  | callback | giveBack => cases h

theorem taker_takeAct {a : ResultAct} {act : BlockingQueue.Act CameraPostProcessMsg}
    (h : takeAct a = some act) : act.taker = if a = .wake .timeout then none else some 0 := by
  cases a with
  | take =>
      obtain rfl := Option.some.inj h
      rfl
  | wake w =>
      obtain rfl := Option.some.inj h
      cases w <;> rfl
  | callback | giveBack => cases h

theorem items_takeAct {a : ResultAct} {act : BlockingQueue.Act CameraPostProcessMsg}
    {q q' : BlockingQueue CameraPostProcessMsg} (h : takeAct a = some act)
    (hq : BlockingQueue.step act q = some q') :
    q'.items = if a = .wake .timeout then q.items else q.items.tail := by
  rw [BlockingQueue.items_step hq, pushes_takeAct h, taker_takeAct h]
  split_ifs <;> simp_all

namespace DeliveryInv

theorem init (cfg : Setup) : DeliveryInv cfg.init where
  pushed := ⟨[], rfl, by simp, rfl⟩
  taken := ⟨[], rfl, by simp, rfl⟩
  exited h := by cases h

theorem congr (h : DeliveryInv s)
    (hpushed : s'.resultThread.messageQueue.pushed = s.resultThread.messageQueue.pushed)
    (htaken : s'.resultThread.messageQueue.taken = s.resultThread.messageQueue.taken)
    (hstopped : s'.resultThread.stopped = s.resultThread.stopped)
    (haccepted : s'.accepted = s.accepted) (hdelivered : s'.log.delivered = s.log.delivered)
    (hpc : s'.resultPc = .exited ↔ s.resultPc = .exited) : DeliveryInv s' where
  pushed := by rw [hpushed, haccepted, hstopped]; exact h.pushed
  taken := by simp only [htaken, hdelivered, hpc]; exact h.taken
  exited he := hstopped.trans (h.exited (hpc.mp he))

theorem result {a : ResultAct} (h : DeliveryInv s)
    (hfifo : BlockingQueue.Fifo s.resultThread.messageQueue) (hs : ResultStep cfg s a s') :
    DeliveryInv s' := by
  cases hs with
  | @wait a act q hpc hheld hact hq hitems =>
      have htaken := BlockingQueue.taken_step hq
      rw [taker_takeAct hact] at htaken
      refine h.congr ?_ ?_ rfl rfl rfl Iff.rfl
      · simpa [pushes_takeAct hact] using BlockingQueue.pushed_step hq
      · rcases hitems with rfl | ⟨rfl, hitems⟩
        · simpa using htaken
        · simpa [hitems] using htaken
  | wakeEmpty hpc hheld hw hq hitems =>
      refine h.congr ?_ ?_ rfl rfl rfl Iff.rfl
      · simpa [fail, BlockingQueue.Act.pushes] using BlockingQueue.pushed_step hq
      · simpa [fail, hitems] using BlockingQueue.taken_step hq
  | @popStop a act q msg l hpc hheld ha hact hq hitems hmsg =>
      have hpushed : q.pushed = s.resultThread.messageQueue.pushed := by
        simpa [pushes_takeAct hact] using BlockingQueue.pushed_step hq
      have htaken : q.taken = s.resultThread.messageQueue.taken ++ [(0, msg)] := by
        simpa [taker_takeAct hact, ha, hitems] using BlockingQueue.taken_step hq
      have hmem : msg ∈ s.resultThread.messageQueue.pushed := by
        rw [hfifo, hitems]
        simp
      obtain ⟨rfl, hstopped⟩ := h.pushed.eq_stopMsg hmem hmsg
      refine ⟨?_, ?_, fun _ => hstopped⟩
      · show Messages q.pushed s.accepted s.resultThread.stopped
        rw [hpushed]
        exact h.pushed
      · show Messages (q.taken.map Prod.snd) s.log.delivered true
        rw [htaken, List.map_append]
        have ht := h.taken
        simp only [hpc, reduceCtorEq, decide_false] at ht
        exact ht.append_stop
  | @pop a act q msg l hpc hheld ha hact hq hitems hmsg =>
      have hpushed : q.pushed = s.resultThread.messageQueue.pushed := by
        simpa [pushes_takeAct hact] using BlockingQueue.pushed_step hq
      have htaken : q.taken = s.resultThread.messageQueue.taken ++ [(0, msg)] := by
        simpa [taker_takeAct hact, ha, hitems] using BlockingQueue.taken_step hq
      refine ⟨?_, ?_, fun he => by cases he⟩
      · show Messages q.pushed s.accepted s.resultThread.stopped
        rw [hpushed]
        exact h.pushed
      · show Messages (q.taken.map Prod.snd) (s.log.delivered ++ [asResult msg]) false
        rw [htaken, List.map_append]
        have ht := h.taken
        simp only [hpc, reduceCtorEq, decide_false] at ht
        exact ht.append _ hmsg
  | @callback msg b rest effects caseState hpc heff =>
      obtain ⟨managers, encoder, he⟩ := foldl_applyEffect effects s
      rw [he]
      exact h.congr rfl rfl rfl rfl rfl (by simp [hpc])
  | callbackUnknown | giveBackUnknown => exact h.congr rfl rfl rfl rfl rfl Iff.rfl
  | callbackInternal hpc | callbackExternal hpc | giveBack hpc | giveBackDone hpc =>
      exact h.congr rfl rfl rfl rfl rfl (by simp [hpc])

theorem step {a : Act} (h : DeliveryInv s) (hstages : Stages cfg s)
    (hfifo : BlockingQueue.Fifo s.resultThread.messageQueue) (hs : Step cfg s a s') :
    DeliveryInv s' := by
  cases hs with
  | request hs =>
      have hf := hs.frame
      exact h.congr (by rw [hf.resultThread]) (by rw [hf.resultThread]) (by rw [hf.resultThread])
        (by rw [accepted, hf.arrivals]; rfl) hf.delivered (by rw [hf.resultPc])
  | hal hs =>
      cases hs with
      | @push r view hheld hview hnull hstopped =>
          have hp := h.pushed
          rw [hstopped] at hp
          refine ⟨?_, h.taken, h.exited⟩
          show Messages (s.resultThread.messageQueue.pushed ++ [_])
            (((s.log.arrivals ++ [(r, false)]).filter fun p => !p.2).map Prod.fst)
            s.resultThread.stopped
          rw [hstopped, List.filter_append, List.map_append]
          exact hp.append ⟨{ r with outputBuffers := view }, r.outputBuffers, false⟩ rfl
      | pushStopped hheld hnull hstopped =>
          exact h.congr rfl rfl rfl (by simp [accepted]) rfl Iff.rfl
      | _ => exact h.congr rfl rfl rfl rfl rfl Iff.rfl
  | result hs => exact h.result hfifo hs
  | encoderReturn ht => exact h.congr rfl rfl rfl rfl rfl Iff.rfl
  | stop hs =>
      cases hs with
      | postResult hpc hheld =>
          have hstopped : s.resultThread.stopped = false := by
            rw [← Bool.not_eq_true, hstages.stopped, hpc]
            simp
          have hp := h.pushed
          rw [hstopped] at hp
          exact ⟨hp.append_stop, h.taken, fun _ => rfl⟩
      | _ => exact h.congr rfl rfl rfl rfl rfl Iff.rfl
  | user hs =>
      have hf := hs.frame
      exact h.congr (by rw [hf.resultThread]) (by rw [hf.resultThread]) (by rw [hf.resultThread])
        (by rw [accepted, hf.log]; rfl) (by rw [hf.log]) (by rw [hf.resultPc])

end DeliveryInv

theorem fifo_messageQueue {ok : Act → Device → Prop} (h : Run cfg ok s) :
    BlockingQueue.Fifo s.resultThread.messageQueue :=
  @BlockingQueue.fifo _ (fun _ _ => True) _ _
    (reachable_messageQueue h fun _ _ _ _ _ => trivial) rfl

theorem deliveryInv {ok : Act → Device → Prop} (h : Run cfg ok s) : DeliveryInv s :=
  h.invariant (.init cfg) fun _ _ _ hr hi _ _ hs => hi.step (stages hr) (fifo_messageQueue hr) hs

theorem eq_stopMsg_of_mem {ok : Act → Device → Prop} (h : Run cfg ok s)
    {msg : CameraPostProcessMsg} (hmem : msg ∈ s.resultThread.messageQueue.items)
    (hmsg : msg.stop = true) : msg = stopMsg := by
  have hpushed : msg ∈ s.resultThread.messageQueue.pushed := by
    rw [fifo_messageQueue h]
    exact List.mem_append_right _ hmem
  exact ((deliveryInv h).pushed.eq_stopMsg hpushed hmsg).1

theorem delivered_append_queued {ok : Act → Device → Prop} (h : Run cfg ok s) :
    s.log.delivered ++ (s.resultThread.messageQueue.items.filter fun msg => !msg.stop).map asResult
      = s.accepted := by
  have hinv := deliveryInv h
  have hfifo := fifo_messageQueue h
  rw [← hinv.pushed.results, hfifo, List.filter_append, List.map_append, hinv.taken.results]

theorem items_of_exited {ok : Act → Device → Prop} (h : Run cfg ok s)
    (hpc : s.resultPc = .exited) : s.resultThread.messageQueue.items = [] := by
  have hinv := deliveryInv h
  have hfifo := fifo_messageQueue h
  obtain ⟨l, hl, -⟩ := hinv.taken
  have hp := hinv.pushed
  simp only [hpc, decide_true, if_true] at hl
  rw [hfifo, hl] at hp
  exact hp.eq_nil_of_stop

theorem delivered_of_exited {ok : Act → Device → Prop} (h : Run cfg ok s)
    (hpc : s.resultPc = .exited) : s.log.delivered = s.accepted := by
  have hqueued := delivered_append_queued h
  rw [items_of_exited h hpc] at hqueued
  simpa using hqueued

theorem Step.of_exited {a : Act} (hs : Step cfg s a s') (hpc : s.resultPc = .exited) :
    s'.resultPc = .exited ∧ s'.log.delivered = s.log.delivered := by
  cases hs with
  | request hs => exact ⟨hs.frame.resultPc.trans hpc, hs.frame.delivered⟩
  | hal hs => exact ⟨hs.frame.resultPc.trans hpc, hs.frame.delivered⟩
  | result hs => exact absurd hpc hs.ne_exited
  | encoderReturn ht => exact ⟨hpc, rfl⟩
  | stop hs => exact ⟨hs.frame.resultPc.trans hpc, by rw [hs.frame.log]⟩
  | user hs => exact ⟨hs.frame.resultPc.trans hpc, by rw [hs.frame.log]⟩

/-- **Results are delivered in the order in which they found the `stopped` flag clear**, all of
them before `stop_streams` passes the join of the result thread, and none after it. -/
theorem delivered_in_order (h : Run cfg ResultWaitSignalled s) :
    s.fault ≠ some .emptyResultQueue ∧ s.log.delivered <+: s.accepted ∧
      (5 ≤ s.stopPc.stage → s.log.delivered = s.accepted ∧
        ∀ s', Reachable (Device.step cfg) ResultWaitSignalled s s' →
          s'.log.delivered = s.log.delivered) := by
  refine ⟨?_, ⟨_, delivered_append_queued h⟩, fun hst => ?_⟩
  · exact fault_ne_emptyResultQueue h fun _ _ _ hr ha hs =>
      wakeFindsMessage_of_signalled (fun _ _ => id) hr ha hs
  · have hpc := (stages h).result hst
    refine ⟨delivered_of_exited h hpc, fun s' hs' => ?_⟩
    have hkeep : s'.resultPc = .exited ∧ s'.log.delivered = s.log.delivered := by
      refine Reachable.invariant
        (P := fun s' => s'.resultPc = .exited ∧ s'.log.delivered = s.log.delivered) hs'
        ⟨hpc, rfl⟩ fun s₁ a s₂ _ hi _ hs => ?_
      obtain ⟨hpc', hd⟩ := (Step.of_eq hs).2.of_exited hi.1
      exact ⟨hpc', hd.trans hi.2⟩
    exact hkeep.2

theorem delivered_before_stop :
    ∃ s, Run (previewSetup 2) ResultWaitSignalled s ∧ s.stopPc = .drain 5 ∧
      s.log.delivered = s.accepted ∧ s.accepted = [resultZero] := by
  obtain ⟨s, hr, hpc, haccepted⟩ : ∃ s, Run (previewSetup 2) ResultWaitSignalled s ∧
      s.stopPc = .drain 5 ∧ s.accepted = [resultZero] :=
    Run.exists_of_exec
      (acceptRequest ++ deliverResult resultZero ++
        [.stop .begin, .stop .postRequest, .request .iterate, .request .iterate,
          .stop .joinRequest, .stop .postResult, .result .take, .result .callback,
          .result .callback, .result .giveBack, .result .giveBack, .result .take,
          .stop .joinResult])
      (by decide +kernel)
  exact ⟨s, hr, hpc, ((delivered_in_order hr).2.2 (by simp [hpc])).1, haccepted⟩

/-- A call that has begun when the flag is set, and takes the mutex after that, is not delivered. -/
theorem undelivered_of_late_lock :
    ¬ ∀ s₁ s r, Run (previewSetup 2) ResultWaitSignalled s₁ → r ∈ s₁.entering →
      s₁.resultThread.stopped = false →
      Reachable (Device.step (previewSetup 2)) ResultWaitSignalled s₁ s →
      5 ≤ s.stopPc.stage → r ∈ s.log.delivered := by
  intro h
  obtain ⟨s₁, hr, hentering, hstopped, hexec⟩ :
      ∃ s₁, Run (previewSetup 2) ResultWaitSignalled s₁ ∧ resultZero ∈ s₁.entering ∧
        s₁.resultThread.stopped = false ∧
        (exec (step (previewSetup 2)) ResultWaitSignalled
          [.stop .begin, .stop .postRequest, .request .iterate, .request .iterate,
            .stop .joinRequest, .stop .postResult, .hal (.lock resultZero),
            .hal (.push resultZero.outputBuffers), .hal .unlock, .result .take, .stop .joinResult]
          s₁).any (fun s => decide (5 ≤ s.stopPc.stage ∧ s.log.delivered = [])) = true :=
    Run.exists_of_exec (acceptRequest ++ [.hal (.call resultZero)]) (by decide +kernel)
  obtain ⟨s, hs, hst, hdelivered⟩ := Reachable.exists_of_exec _ hexec
  have hmem := h s₁ s resultZero hr hentering hstopped hs hst
  rw [hdelivered] at hmem
  cases hmem

end Device

end QCamx
