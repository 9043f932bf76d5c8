import QCamx.Device.Custody
import QCamx.Device.Delivery
import QCamx.Lib.Trace

/-!
# How the threads come to their end

`stop_streams` posts a stop message behind the `REQUEST_CHANGE` messages that are still queued. The
request thread finishes the iteration it is in, which may submit one request, handles the messages
before that one, and returns. The same goes for the result thread and the results that are queued
when its stop message is.

* `Outgoing`: what is queued for the request thread, before and after the stop message is posted;
* `requestStepsLeft`, `submissionsLeft`: the steps it can still make, and those that submit;
* **`request_thread_stops`**: it makes no more of them;
* `resultStepsLeft`: the steps that the result thread can still make;
* **`result_thread_stops`**: it makes no more, whatever the HAL calls.
-/

namespace QCamx

open Guarded

namespace Device

variable {cfg : Setup} {s s' : Device}

/-! ## The wait for a buffer -/

/-- The request thread waits for a buffer of stream `i`. -/
def WaitsForBuffer (s : Device) (i : ℕ) : Prop := (s.managers i).buffersFree.waits 0 ≠ 0

instance (s : Device) (i : ℕ) : Decidable (s.WaitsForBuffer i) := by
  unfold WaitsForBuffer; infer_instance

theorem waitsForBuffer_returnBuffer (s : Device) (j : ℕ) (b : Buffer) (i : ℕ) :
    (s.returnBuffer j b).WaitsForBuffer i ↔ s.WaitsForBuffer i := by
  by_cases hi : i = j
  · subst hi
    simp [WaitsForBuffer, returnBuffer, BufferManager.returnBuffer]
  · simp [WaitsForBuffer, returnBuffer, Function.update_of_ne hi]

theorem waitsForBuffer_foldl (effects : List Effect) (s : Device) (i : ℕ) :
    (effects.foldl applyEffect s).WaitsForBuffer i ↔ s.WaitsForBuffer i := by
  induction effects generalizing s with
  | nil => rfl
  | cons e effects ih =>
      rw [List.foldl_cons, ih]
      cases e with
      | returnBuffer j b => exact waitsForBuffer_returnBuffer s j b i
      | _ => rfl

theorem Step.waitsForBuffer {a : Act} (hs : Step cfg s a s') (ha : ∀ b, a ≠ .request b) (i : ℕ) :
    s'.WaitsForBuffer i ↔ s.WaitsForBuffer i := by
  cases hs with
  | request => exact absurd rfl (ha _)
  | hal hs => rw [WaitsForBuffer, hs.frame.managers]; rfl
  | result hs =>
      cases hs with
      | callback => exact waitsForBuffer_foldl _ s i
      | giveBack => exact waitsForBuffer_returnBuffer s _ _ i
      | _ => rfl
  | encoderReturn => exact waitsForBuffer_returnBuffer s _ _ i
  | stop hs => rw [WaitsForBuffer, hs.frame.managers]; rfl
  | user hs => rw [WaitsForBuffer, hs.frame.managers]; rfl

/-! ## The messages -/

/-- The message by which `stop_streams` ends the request thread. -/
def stopRequestMsg : CameraRequestMsg := ⟨.startStop, 0, fun _ => 0, 1⟩

/-- The messages for the request thread: no stop message before `stop_streams` has posted it, and
then only `REQUEST_CHANGE` before it and nothing behind it. -/
structure Outgoing (s : Device) : Prop where
  running : s.stopPc.stage < 2 → s.requestThread.stopped = false ∧
    ∀ msg ∈ s.requestThread.messageQueue, msg.messageType = .requestChange
  posted : 2 ≤ s.stopPc.stage → s.requestThread.stopped = true ∨
    ∃ l, s.requestThread.messageQueue = l ++ [stopRequestMsg] ∧
      ∀ msg ∈ l, msg.messageType = .requestChange

namespace Outgoing

theorem init (cfg : Setup) : Outgoing cfg.init where
  running _ := ⟨rfl, fun msg hmsg => by cases hmsg⟩
  posted h := by simp [Setup.init] at h

theorem congr (h : Outgoing s) (hpc : s'.stopPc = s.stopPc)
    (hstopped : s'.requestThread.stopped = s.requestThread.stopped)
    (hqueue : s'.requestThread.messageQueue = s.requestThread.messageQueue) : Outgoing s' where
  running := by rw [hpc, hstopped, hqueue]; exact h.running
  posted := by rw [hpc, hstopped, hqueue]; exact h.posted

theorem tail (h : Outgoing s) {msg : CameraRequestMsg} {queue : List CameraRequestMsg}
    (hq : s.requestThread.messageQueue = msg :: queue) (hpc : s'.stopPc = s.stopPc)
    (hmsg : msg.messageType = .requestChange)
    (hstopped : s'.requestThread.stopped = s.requestThread.stopped)
    (hqueue : s'.requestThread.messageQueue = queue) : Outgoing s' where
  running hst := by
    obtain ⟨hrun, hall⟩ := h.running (hpc ▸ hst)
    rw [hq] at hall
    rw [hstopped, hqueue]
    exact ⟨hrun, fun m hm => hall m (List.mem_cons_of_mem _ hm)⟩
  posted hst := by
    rw [hstopped, hqueue]
    refine (h.posted (hpc ▸ hst)).imp_right ?_
    rintro ⟨l, hl, hall⟩
    rw [hq] at hl
    cases l with
    | nil =>
        obtain ⟨rfl, -⟩ := List.cons.inj hl
        cases hmsg
    | cons m l =>
        obtain ⟨rfl, rfl⟩ := List.cons.inj hl
        exact ⟨l, rfl, fun m hm => hall m (List.mem_cons_of_mem _ hm)⟩

theorem front (h : Outgoing s) (hstop : s.requestThread.stopped = false) {msg : CameraRequestMsg}
    {queue : List CameraRequestMsg} (hq : s.requestThread.messageQueue = msg :: queue) :
    msg.messageType = .requestChange ∨ msg = stopRequestMsg ∧ queue = [] := by
  by_cases hst : s.stopPc.stage < 2
  · left
    exact (h.running hst).2 msg (by rw [hq]; exact List.mem_cons_self)
  · rcases h.posted (by omega) with hrun | ⟨l, hl, hall⟩
    · rw [hstop] at hrun
      cases hrun
    · rw [hq] at hl
      cases l with
      | nil =>
          right
          exact List.cons.inj hl
      | cons m l =>
          left
          obtain ⟨rfl, -⟩ := List.cons.inj hl
          exact hall _ List.mem_cons_self

theorem request {a : RequestAct} (h : Outgoing s) (hs : RequestStep cfg s a s') : Outgoing s' := by
  have hf := hs.frame
  cases hs with
  | change hpc hstop hq htype => exact h.tail hq rfl htype rfl rfl
  | otherMessage hpc hstop hq htype hmsg =>
      rcases h.front hstop hq with hchange | ⟨rfl, -⟩
      · rw [htype] at hchange
        cases hchange
      · exact absurd rfl hmsg
  | @stopMessage msg queue hpc hstop hq htype hmsg =>
      refine ⟨fun hst => ?_, fun _ => Or.inl rfl⟩
      have hchange := (h.running hst).2 msg (by rw [hq]; exact List.mem_cons_self)
      rw [htype] at hchange
      cases hchange
  | _ => exact h.congr hf.stopPc rfl rfl

theorem stop {a : StopAct} (h : Outgoing s) (hs : StopStep cfg s a s') : Outgoing s' := by
  cases hs with
  | begin hpc =>
      refine ⟨fun _ => h.running (by simp [hpc]), fun hst => ?_⟩
      simp at hst
  | postRequest hpc =>
      refine ⟨fun hst => ?_, fun _ => ?_⟩
      · simp at hst
      · exact Or.inr ⟨_, rfl, (h.running (by simp [hpc])).2⟩
  | joinRequest hpc | postResult hpc | joinResult hpc | drained hpc | drainWait hpc
  | forcedClear hpc | timeout hpc | wake hpc | delete hpc =>
      refine ⟨fun hst => ?_, fun _ => h.posted (by simp [hpc])⟩
      simp at hst

theorem user {a : UserAct} (h : Outgoing s) (hs : UserStep cfg s a s') : Outgoing s' := by
  cases hs with
  | requestCapture hpc hmsg =>
      refine ⟨fun _ => ?_, fun hst => ?_⟩
      · obtain ⟨hrun, hall⟩ := h.running (by simp [hpc])
        refine ⟨hrun, fun m hm => ?_⟩
        rcases List.mem_append.mp hm with hm | hm
        · exact hall m hm
        · obtain rfl := List.mem_singleton.mp hm
          exact messageType_requestCapture hmsg
      · simp [hpc] at hst
  | requestIgnored | triggerDump | metadata => exact h.congr rfl rfl rfl

theorem step {a : Act} (h : Outgoing s) (hs : Step cfg s a s') : Outgoing s' := by
  cases hs with
  | request hs => exact h.request hs
  | hal hs =>
      have hf := hs.frame
      exact h.congr hf.stopPc (by rw [hf.requestThread]) (by rw [hf.requestThread])
  | result hs =>
      have hf := hs.frame
      exact h.congr hf.stopPc (by rw [hf.requestThread]) (by rw [hf.requestThread])
  | encoderReturn => exact h.congr rfl rfl rfl
  | stop hs => exact h.stop hs
  | user hs => exact h.user hs

end Outgoing

/-- **What is queued for the request thread, in every run.** -/
theorem outgoing {ok : Act → Device → Prop} (h : Run cfg ok s) : Outgoing s :=
  h.invariant (.init cfg) fun _ _ _ _ hi _ _ hs => hi.step hs

/-! ## The steps that are left -/

/-- The steps at the head of the loop, until it is left. -/
def loopSteps (s : Device) : ℕ :=
  if s.requestThread.stopped then 1 else s.requestThread.messageQueue.length + 1

/-- A bound on the steps of the request thread after the stop message is posted. A stream costs
three: the wait, the return from it, and a buffer that may have to be given back. -/
def requestStepsLeft (s : Device) : ℕ :=
  let n := s.camera3Streams.length
  if s.fault.isSome then 0
  else match s.requestPc with
    | .exited => 0
    | .reject rest => rest.length + 1
    | .inCall _ buffers false => buffers.length + 2
    | .loop => s.loopSteps
    | .waitMessage | .decrement _ => s.loopSteps + 1
    | .unlock _ _ => s.loopSteps + 2
    | .inCall _ _ true => s.loopSteps + 3
    | .submit _ buffers => buffers.length + s.loopSteps + 4
    | .insert _ buffers _ => buffers.length + s.loopSteps + 5
    | .settings _ buffers => buffers.length + s.loopSteps + 6
    | .assemble _ i buffers =>
        buffers.length + (if s.WaitsForBuffer i then 3 * (n - i) - 1 else 3 * (n - i)) +
          s.loopSteps + 7
    | .waitLimit _ => 3 * n + s.loopSteps + 8
    | .limit _ => 3 * n + s.loopSteps + 9

/-- The requests that the thread can still submit once the stop message is posted. -/
def submissionsLeft (s : Device) : ℕ :=
  if s.fault.isSome then 0
  else match s.requestPc with
  | .limit _ | .waitLimit _ | .assemble .. | .settings .. | .insert .. | .submit .. => 1
  | .loop | .waitMessage | .inCall .. | .unlock .. | .reject _ | .decrement _ | .exited => 0

/-- A step of the request thread. -/
def isRequest : Act → Device → Bool
  | .request _, _ => true
  | _, _ => false

/-- A call of `process_capture_request`. -/
def isSubmission : Act → Device → Bool
  | .request (.submit _), _ => true
  | _, _ => false

theorem requestStepsLeft_of_fault (h : s.fault.isSome = true) : s.requestStepsLeft = 0 := by
  simp [requestStepsLeft, h]

theorem requestStepsLeft_congr (hfault : s.fault = none) (hpc : s'.requestPc = s.requestPc)
    (hthread : s'.loopSteps = s.loopSteps)
    (hstreams : s.requestPc ≠ .exited → s'.camera3Streams = s.camera3Streams)
    (hwaits : ∀ i, s'.WaitsForBuffer i ↔ s.WaitsForBuffer i) :
    s'.requestStepsLeft ≤ s.requestStepsLeft := by
  by_cases hfault' : s'.fault.isSome = true
  · rw [requestStepsLeft_of_fault hfault']
    exact Nat.zero_le _
  · cases hc : s.requestPc with
    | exited => simp [requestStepsLeft, hpc, hc]
    | loop | waitMessage | limit | waitLimit | assemble | settings | insert | submit | unlock
    | reject | decrement =>
        have hn := hstreams (by simp [hc])
        simp [requestStepsLeft, hpc, hc, hthread, hn, hwaits, hfault, hfault']
    | inCall selected buffers accepted =>
        have hn := hstreams (by simp [hc])
        cases accepted <;> simp [requestStepsLeft, hpc, hc, hthread, hfault, hfault']

theorem waits_of_getBuffer {m m' : BufferManager} (hm : m.step (.getBuffer 0) = some m')
    (hfree : m.buffersFree.items = []) :
    m.buffersFree.waits 0 = 0 ∧ m'.buffersFree.waits 0 ≠ 0 := by
  obtain ⟨q, hq, rfl⟩ := Option.map_eq_some_iff.mp hm
  simp only [BlockingQueue.step, hfree, if_true] at hq
  split_ifs at hq with hwaits
  obtain rfl := Option.some.inj hq
  refine ⟨BlockingQueue.waits_eq_zero_iff.mpr hwaits, ?_⟩
  simp [BufferManager.afterGet, BlockingQueue.waits]

theorem Outgoing.queue_ne_nil (h : Outgoing s) (hst : 2 ≤ s.stopPc.stage)
    (hstop : s.requestThread.stopped = false) : s.requestThread.messageQueue ≠ [] := by
  intro hq
  rcases h.posted hst with hrun | ⟨l, hl, -⟩
  · rw [hstop] at hrun
    cases hrun
  · rw [hq] at hl
    simp at hl

theorem stepsLeft_wait {selected : ℕ → ℕ} {i : ℕ} {buffers : List StreamBuffer}
    (hpc : s.requestPc = .assemble selected i buffers) (hlt : i < s.camera3Streams.length)
    (hfault : s.fault = none) (hfault' : s'.fault = s.fault) (hthread : s'.loopSteps = s.loopSteps)
    (hstreams : s'.camera3Streams = s.camera3Streams)
    (hpc' : s'.requestPc = .assemble selected i buffers) (hnot : ¬ s.WaitsForBuffer i)
    (hwaits : s'.WaitsForBuffer i) : s'.requestStepsLeft + 1 ≤ s.requestStepsLeft := by
  have hfault' : s'.fault = none := hfault'.trans hfault
  simp only [requestStepsLeft, hpc, hpc', hfault, hfault', hthread, hstreams, hnot, hwaits,
    Option.isSome_none, Bool.false_eq_true, if_false, if_true]
  omega

theorem stepsLeft_next {selected : ℕ → ℕ} {i : ℕ} {buffers taken : List StreamBuffer}
    (hpc : s.requestPc = .assemble selected i buffers) (hlt : i < s.camera3Streams.length)
    (hfault : s.fault = none) (hfault' : s'.fault = s.fault) (hthread : s'.loopSteps = s.loopSteps)
    (hstreams : s'.camera3Streams = s.camera3Streams)
    (hpc' : s'.requestPc = .assemble selected (i + 1) taken)
    (htaken : taken.length ≤ buffers.length + 1) :
    s'.requestStepsLeft + 1 ≤ s.requestStepsLeft := by
  have hfault' : s'.fault = none := hfault'.trans hfault
  simp only [requestStepsLeft, hpc, hpc', hfault, hfault', hthread, hstreams, Option.isSome_none,
    Bool.false_eq_true, if_false]
  split_ifs <;> omega

/-- **Each step of the request thread uses one up.** -/
theorem RequestStep.stepsLeft {a : RequestAct} (hs : RequestStep cfg s a s') (h : Outgoing s)
    (hst : 2 ≤ s.stopPc.stage) (hfault : s.fault = none) :
    s'.requestStepsLeft + 1 ≤ s.requestStepsLeft := by
  have hpos : 1 ≤ s.loopSteps := by
    rw [loopSteps]
    split_ifs <;> omega
  cases hs with
  | exit hpc hstop => simp [requestStepsLeft, hpc, hfault, hpos]
  | stopMessage hpc hstop hq =>
      simp [requestStepsLeft, loopSteps, hpc, hfault, hstop, hq]
  | otherMessage hpc hstop hq htype hmsg =>
      rcases h.front hstop hq with hchange | ⟨rfl, -⟩
      · rw [htype] at hchange
        cases hchange
      · exact absurd rfl hmsg
  | change hpc hstop hq => simp [requestStepsLeft, loopSteps, hpc, hfault, hstop, hq]
  | changeOverflow hpc => simp [requestStepsLeft, hpc, hfault, fail, hpos]
  | start hpc hstop hq | idle hpc hstop hq => exact absurd hq (h.queue_ne_nil hst hstop)
  | wakeMessage hpc | returnRejected hpc | decrement hpc =>
      simp [requestStepsLeft, loopSteps, hpc, hfault]
  | limitWait hpc | limitTimeout hpc | submitFreed hpc | returnOverflow hpc | unlockFreed hpc
  | rejectFreed hpc | rejectUnknown hpc | rejectRemove hpc | rejectAbsent hpc =>
      simp [requestStepsLeft, loopSteps, hpc, hfault, fail]
  | limitPass hpc | limitWake hpc =>
      simp only [requestStepsLeft, loopSteps, hpc, hfault, Option.isSome_none, Bool.false_eq_true,
        if_false, List.length_nil, Nat.sub_zero]
      split_ifs <;> omega
  | @assembled selected i buffers hpc hi =>
      simp [requestStepsLeft, loopSteps, hpc, hfault]
  | @skip selected i buffers stream hpc hi hsel =>
      have hlt := (List.getElem?_eq_some_iff.mp hi).1
      exact stepsLeft_next hpc hlt hfault rfl rfl rfl rfl (Nat.le_succ _)
  | @bufferWait selected i buffers stream m hpc hi hsel hm hfree =>
      have hlt := (List.getElem?_eq_some_iff.mp hi).1
      obtain ⟨hnot, hwaits⟩ := waits_of_getBuffer hm hfree
      refine stepsLeft_wait hpc hlt hfault rfl rfl rfl hpc (not_not.mpr hnot) ?_
      simpa [WaitsForBuffer] using hwaits
  | getBuffer ha hpc hi hsel hfree =>
      have hlt := (List.getElem?_eq_some_iff.mp hi).1
      exact stepsLeft_next hpc hlt hfault rfl rfl rfl rfl (by simp)
  | bufferWakeEmpty hpc => simp [requestStepsLeft, hpc, hfault, fail]
  | settings hpc => simp [requestStepsLeft, loopSteps, hpc, hfault, takeSettings]
  | insert hpc => simp [requestStepsLeft, loopSteps, hpc, hfault]
  | @submit selected buffers accepted hpc =>
      cases accepted with
      | false =>
          simp only [requestStepsLeft, loopSteps, hpc, hfault, Option.isSome_none,
            Bool.false_eq_true, if_false]
          omega
      | true =>
          simp only [requestStepsLeft, loopSteps, hpc, hfault, Option.isSome_none,
            Bool.false_eq_true, if_false]
          omega
  | returnAccepted hpc => simp [requestStepsLeft, loopSteps, hpc, hfault]
  | unlock setting hpc => simp [requestStepsLeft, loopSteps, hpc, hfault]
  | rejectReturn hpc =>
      simp [requestStepsLeft, hpc, hfault, returnBuffer]

theorem length_buffers_le {ok : Act → Device → Prop} (h : Run cfg ok s) :
    s.requestPc.buffers.length ≤ maxStream := by
  refine h.invariant (P := fun s => s.requestPc.buffers.length ≤ maxStream) (Nat.zero_le _)
    fun s a s' hr hle _ _ hs => ?_
  have hbefore := (numbering hr).collected_le
  have hafter := ((numbering hr).step hs).collected_le
  cases hs with
  | request hs =>
      cases hs with
      | limitPass | limitWake | assembled | skip | getBuffer | settings | insert => exact hafter
      | @submit selected buffers accepted hpc =>
          simp only [collected, hpc] at hbefore
          cases accepted with
          | false => exact hbefore
          | true => exact Nat.zero_le _
      | returnRejected hpc | rejectReturn hpc =>
          simp only [hpc, RequestPc.buffers, List.length_cons] at hle ⊢
          omega
      | exit | otherMessage | start | idle | wakeMessage | limitWait | limitTimeout
      | returnAccepted | unlock | rejectRemove | rejectAbsent | decrement => exact Nat.zero_le _
      | stopMessage | change | changeOverflow | bufferWait | bufferWakeEmpty | submitFreed
      | returnOverflow | unlockFreed | rejectFreed | rejectUnknown => exact hle
  | hal hs => rw [hs.frame.requestPc]; exact hle
  | result hs => rw [hs.frame.requestPc]; exact hle
  | encoderReturn => exact hle
  | stop hs => rw [hs.frame.requestPc]; exact hle
  | user hs => rw [hs.frame.requestPc]; exact hle

theorem requestStepsLeft_le {ok : Act → Device → Prop} (h : Run cfg ok s) :
    s.requestStepsLeft ≤ s.requestThread.messageQueue.length + 22 := by
  have hn := numbering h
  have hstreams := hn.streams_le
  have hcollected := hn.collected_le
  have hbuffers := length_buffers_le h
  have hloop : s.loopSteps ≤ s.requestThread.messageQueue.length + 1 := by
    rw [loopSteps]
    split_ifs <;> omega
  simp only [maxStream] at hstreams hcollected hbuffers
  unfold requestStepsLeft
  simp only
  split_ifs with hfault
  · exact Nat.zero_le _
  · cases hpc : s.requestPc with
    | loop | waitMessage | limit | waitLimit | unlock | decrement | exited => simp only; omega
    | assemble selected i buffers =>
        have hindex := hn.index_le _ _ _ hpc
        simp only [maxStream] at hindex ⊢
        split_ifs <;> omega
    | settings | insert | submit =>
        simp only [collected, hpc] at hcollected
        simp only
        omega
    | inCall selected buffers accepted =>
        cases accepted with
        | false =>
            simp only [hpc, RequestPc.buffers] at hbuffers
            simp only
            omega
        | true => simp only; omega
    | reject =>
        simp only [hpc, RequestPc.buffers] at hbuffers
        simp only
        omega

/-! ## The end of the request thread -/

/-- A state that a run reaches once `stop_streams` has come to stage `n`. -/
structure AtStage (cfg : Setup) (n : ℕ) (s : Device) : Prop where
  run : Run cfg (fun _ _ => True) s
  stage : n ≤ s.stopPc.stage

theorem AtStage.step {n : ℕ} {a : Act} (h : AtStage cfg n s) (hs : Device.step cfg a s = some s') :
    AtStage cfg n s' where
  run := h.run.tail trivial hs
  stage := h.stage.trans (Step.of_eq hs).2.stage_le

theorem Step.requestStepsLeft_le {a : Act} (hs : Step cfg s a s') (h : Stages cfg s)
    (hst : 2 ≤ s.stopPc.stage) (hfault : s.fault = none) (ha : ∀ b, a ≠ .request b) :
    s'.requestStepsLeft ≤ s.requestStepsLeft ∧ s'.requestPc = s.requestPc := by
  have hwaits := hs.waitsForBuffer ha
  cases hs with
  | request => exact absurd rfl (ha _)
  | hal hs =>
      have hf := hs.frame
      exact ⟨requestStepsLeft_congr hfault hf.requestPc (by simp only [loopSteps, hf.requestThread])
        (fun _ => hf.camera3Streams) hwaits, hf.requestPc⟩
  | result hs =>
      have hf := hs.frame
      exact ⟨requestStepsLeft_congr hfault hf.requestPc (by simp only [loopSteps, hf.requestThread])
        (fun _ => hf.camera3Streams) hwaits, hf.requestPc⟩
  | encoderReturn => exact ⟨requestStepsLeft_congr hfault rfl rfl (fun _ => rfl) hwaits, rfl⟩
  | stop hs =>
      cases hs with
      | begin hpc | postRequest hpc => simp [hpc] at hst
      | delete hpc =>
          have hexited := h.request (by simp [hpc])
          exact ⟨requestStepsLeft_congr hfault rfl rfl (fun hne => absurd hexited hne) hwaits, rfl⟩
      | joinRequest | postResult | joinResult | drained | drainWait | forcedClear | timeout
      | wake => exact ⟨requestStepsLeft_congr hfault rfl rfl (fun _ => rfl) hwaits, rfl⟩
  | user hs =>
      cases hs with
      | requestCapture hpc | requestIgnored hpc | triggerDump hpc | metadata hpc =>
          simp [hpc] at hst

theorem RequestStep.submissionsLeft_add_le {a : RequestAct} (hs : RequestStep cfg s a s')
    (h : Outgoing s) (hst : 2 ≤ s.stopPc.stage) (hfault : s.fault = none) :
    s'.submissionsLeft + (if isSubmission (.request a) s then 1 else 0) ≤ s.submissionsLeft := by
  cases hs with
  | otherMessage hpc hstop hq htype hmsg =>
      rcases h.front hstop hq with hchange | ⟨rfl, -⟩
      · rw [htype] at hchange
        cases hchange
      · exact absurd rfl hmsg
  | start hpc hstop hq => exact absurd hq (h.queue_ne_nil hst hstop)
  | getBuffer ha hpc =>
      rcases ha with ⟨rfl, -⟩ | ⟨w, rfl, -⟩ <;> simp [submissionsLeft, hpc, isSubmission, hfault]
  | exit hpc | stopMessage hpc | change hpc | changeOverflow hpc | idle hpc | wakeMessage hpc
  | limitWait hpc | limitPass hpc | limitTimeout hpc | limitWake hpc | assembled hpc | skip hpc
  | bufferWait hpc | bufferWakeEmpty hpc | settings hpc | insert hpc | submitFreed hpc | submit hpc
  | returnAccepted hpc | returnOverflow hpc | returnRejected hpc | unlockFreed hpc | unlock _ hpc
  | rejectFreed hpc | rejectReturn hpc | rejectUnknown hpc | rejectRemove hpc | rejectAbsent hpc
  | decrement hpc =>
      simp [submissionsLeft, hpc, isSubmission, hfault, fail, takeSettings, returnBuffer]

theorem submissionsLeft_congr (hfault : s.fault = none) (hpc : s'.requestPc = s.requestPc) :
    s'.submissionsLeft ≤ s.submissionsLeft := by
  simp only [submissionsLeft, hpc, hfault, Option.isSome_none, Bool.false_eq_true, if_false]
  split_ifs
  · exact Nat.zero_le _
  · rfl

theorem submissionsLeft_le_one (s : Device) : s.submissionsLeft ≤ 1 := by
  unfold submissionsLeft
  split_ifs
  · exact Nat.zero_le _
  · split <;> omega

/-- **Once `stop_streams` has posted its message, the request thread comes to its end**: it makes at
most 22 steps more than there are messages queued, among them at most one that submits a request. -/
theorem request_thread_stops {acts : List Act} {s₀ : Device} (h₀ : Run cfg (fun _ _ => True) s₀)
    (hposted : 2 ≤ s₀.stopPc.stage) (h : exec (step cfg) (fun _ _ => True) acts s₀ = some s) :
    countAlong (step cfg) isRequest acts s₀ ≤ s₀.requestThread.messageQueue.length + 22 ∧
      countAlong (step cfg) isSubmission acts s₀ ≤ 1 := by
  have hinv : ∀ a t t', AtStage cfg 2 t → True → step cfg a t = some t' → AtStage cfg 2 t' :=
    fun _ _ _ ht _ hstep => ht.step hstep
  constructor
  · have hcount := countAlong_add_le (p := isRequest) (μ := requestStepsLeft) hinv
      (fun a t t' ht _ hstep => ?_) h ⟨h₀, hposted⟩
    · have hle := requestStepsLeft_le h₀
      omega
    · obtain ⟨hfault, hs⟩ := Step.of_eq hstep
      cases a with
      | request a =>
          cases hs with
          | request hs => exact hs.stepsLeft (outgoing ht.run) ht.stage hfault
      | hal | result | encoderReturn | stop | user =>
          exact (hs.requestStepsLeft_le (stages ht.run) ht.stage hfault (by simp)).1
  · have hcount := countAlong_add_le (p := isSubmission) (μ := submissionsLeft) hinv
      (fun a t t' ht _ hstep => ?_) h ⟨h₀, hposted⟩
    · have hle := submissionsLeft_le_one s₀
      omega
    · obtain ⟨hfault, hs⟩ := Step.of_eq hstep
      cases a with
      | request a =>
          cases hs with
          | request hs => exact hs.submissionsLeft_add_le (outgoing ht.run) ht.stage hfault
      | hal | result | encoderReturn | stop | user =>
          exact submissionsLeft_congr hfault
            (hs.requestStepsLeft_le (stages ht.run) ht.stage hfault (by simp)).2

/-- A request is submitted after the message is posted. -/
theorem submits_after_stop :
    ∃ s₀ s, ∃ acts : List Act, Run (previewSetup 2) (fun _ _ => True) s₀ ∧
      2 ≤ s₀.stopPc.stage ∧ s₀.requestThread.messageQueue.length = 1 ∧
      exec (step (previewSetup 2)) (fun _ _ => True) acts s₀ = some s ∧
      s.stopPc = .postResult ∧ s.log.submitted.length = 1 ∧
      countAlong (step (previewSetup 2)) isRequest acts s₀ ≤ 1 + 22 ∧
      countAlong (step (previewSetup 2)) isSubmission acts s₀ ≤ 1 := by
  obtain ⟨s₀, hr, hst, hlen, hexec⟩ :
      ∃ s₀, Run (previewSetup 2) (fun _ _ => True) s₀ ∧ 2 ≤ s₀.stopPc.stage ∧
        s₀.requestThread.messageQueue.length = 1 ∧
        (exec (step (previewSetup 2)) (fun _ _ => True)
          (acceptRequest.drop 2 ++ [.request .iterate, .request .iterate, .stop .joinRequest])
          s₀).any
          (fun s => decide (s.stopPc = .postResult ∧ s.log.submitted.length = 1)) = true :=
    Run.exists_of_exec (acceptRequest.take 2 ++ [.stop .begin, .stop .postRequest])
      (by decide +kernel)
  obtain ⟨s, hs, hend⟩ := (Option.any_eq_true _ _).mp hexec
  obtain ⟨hpc, hsub⟩ := of_decide_eq_true hend
  have hstops := request_thread_stops hr hst hs
  rw [hlen] at hstops
  exact ⟨s₀, s, _, hr, hst, hlen, hs, hpc, hsub, hstops⟩

/-! ## The end of the result thread -/

/-- The steps that a queued message costs: it is taken, the callback gets each of its buffers, and
the device may give each back. -/
def messageSteps (msg : CameraPostProcessMsg) : ℕ := 2 * msg.streamBuffers.length + 3

/-- The steps that the messages in the result queue cost. -/
def queuedSteps (s : Device) : ℕ := (s.resultThread.messageQueue.items.map messageSteps).sum

/-- The steps until the result thread has done with the message it is at. -/
def currentSteps (s : Device) : ℕ :=
  match s.resultPc with
  | .top | .exited => 0
  | .callback msg rest => rest.length + msg.streamBuffers.length + 2
  | .giveBack _ rest => rest.length + 1

/-- A bound on the steps of the result thread after its stop message is posted. -/
def resultStepsLeft (s : Device) : ℕ :=
  if s.fault.isSome then 0
  else s.currentSteps + s.queuedSteps + s.resultThread.messageQueue.waits 0

/-- A step of the result thread. -/
def isResult : Act → Device → Bool
  | .result _, _ => true
  | _, _ => false

theorem resultStepsLeft_of_fault (h : s.fault.isSome = true) : s.resultStepsLeft = 0 := by
  simp [resultStepsLeft, h]

theorem resultStepsLeft_congr (hfault : s.fault = none) (hpc : s'.resultPc = s.resultPc)
    (hqueue : s'.resultThread.messageQueue = s.resultThread.messageQueue) :
    s'.resultStepsLeft ≤ s.resultStepsLeft := by
  by_cases hfault' : s'.fault.isSome = true
  · rw [resultStepsLeft_of_fault hfault']
    exact Nat.zero_le _
  · simp [resultStepsLeft, currentSteps, queuedSteps, hpc, hqueue, hfault, hfault']

theorem Step.messageQueue_of_stopped {a : Act} (hs : Step cfg s a s') (h : Stages cfg s)
    (hst : 4 ≤ s.stopPc.stage) (ha : ∀ b, a ≠ .result b) :
    s'.resultPc = s.resultPc ∧ s'.resultThread.messageQueue = s.resultThread.messageQueue := by
  cases hs with
  | request hs => exact ⟨hs.frame.resultPc, by rw [hs.frame.resultThread]⟩
  | hal hs =>
      have hstopped := h.stopped.mpr hst
      refine ⟨hs.frame.resultPc, ?_⟩
      cases hs with
      | push hheld hview hnull hstop =>
          rw [hstopped] at hstop
          cases hstop
      | _ => rfl
  | result => exact absurd rfl (ha _)
  | encoderReturn => exact ⟨rfl, rfl⟩
  | stop hs =>
      cases hs with
      | postResult hpc => simp [hpc] at hst
      | _ => exact ⟨rfl, rfl⟩
  | user hs => exact ⟨hs.frame.resultPc, by rw [hs.frame.resultThread]⟩

theorem items_ne_nil {ok : Act → Device → Prop} (h : Run cfg ok s) (hst : 4 ≤ s.stopPc.stage)
    (hpc : s.resultPc ≠ .exited) : s.resultThread.messageQueue.items ≠ [] := by
  intro hitems
  have hinv := deliveryInv h
  have hfifo := fifo_messageQueue h
  have hpushed := hinv.pushed
  rw [(stages h).stopped.mpr hst, hfifo, hitems, List.append_nil] at hpushed
  obtain ⟨l, hl, hall, -⟩ := hinv.taken
  obtain ⟨l', hl', -⟩ := hpushed
  rw [hl'] at hl
  have hmem : stopMsg ∈ l := by
    simp only [hpc, decide_false, if_true, Bool.false_eq_true, if_false, List.append_nil] at hl
    rw [← hl]
    simp
  have hstop := hall stopMsg hmem
  cases hstop

/-- **Each step of the result thread uses one up.** -/
theorem ResultStep.stepsLeft {a : ResultAct} (hs : ResultStep cfg s a s') (hfault : s.fault = none)
    (hitems : s.resultPc ≠ .exited → s.resultThread.messageQueue.items ≠ []) :
    s'.resultStepsLeft + 1 ≤ s.resultStepsLeft := by
  have hne := hitems hs.ne_exited
  cases hs with
  | wait hpc hheld hact hq hwait =>
      rcases hwait with rfl | ⟨-, hempty⟩
      · obtain rfl := Option.some.inj hact
        have hitems' := BlockingQueue.items_step hq
        simp only [BlockingQueue.step] at hq
        split_ifs at hq with hin
        obtain rfl := Option.some.inj hq
        have hleave := BlockingQueue.waits_leave hin
        simp only [resultStepsLeft, currentSteps, queuedSteps, hpc, hfault, Option.isSome_none,
          Bool.false_eq_true, if_false, BlockingQueue.items_leave]
        omega
      · exact absurd hempty hne
  | wakeEmpty hpc hheld hw hq hempty => exact absurd hempty hne
  | @popStop a act q msg l hpc hheld ha hact hq hcons hmsg =>
      have hwaits := BlockingQueue.waits_step_le hq hne 0
      have hrest : q.items = l := by
        rw [items_takeAct hact hq, if_neg ha, hcons]
        rfl
      simp only [resultStepsLeft, currentSteps, queuedSteps, messageSteps, hpc, hfault, hcons,
        hrest, Option.isSome_none, Bool.false_eq_true, if_false, List.map_cons, List.sum_cons]
      omega
  | @pop a act q msg l hpc hheld ha hact hq hcons hmsg =>
      have hwaits := BlockingQueue.waits_step_le hq hne 0
      have hrest : q.items = l := by
        rw [items_takeAct hact hq, if_neg ha, hcons]
        rfl
      simp only [resultStepsLeft, currentSteps, queuedSteps, messageSteps, hpc, hfault, hcons,
        hrest, Option.isSome_none, Bool.false_eq_true, if_false, List.map_cons, List.sum_cons]
      omega
  | @callback msg b rest effects caseState hpc heff =>
      obtain ⟨managers, encoder, he⟩ := foldl_applyEffect effects s
      rw [he]
      simp only [resultStepsLeft, currentSteps, queuedSteps, hpc, hfault, Option.isSome_none,
        Bool.false_eq_true, if_false, List.length_cons]
      omega
  | callbackUnknown hpc | giveBackUnknown hpc =>
      simp [resultStepsLeft, currentSteps, hpc, hfault, fail]
      omega
  | callbackInternal hpc | callbackExternal hpc | giveBack hpc | giveBackDone hpc =>
      simp only [resultStepsLeft, currentSteps, queuedSteps, hpc, hfault, returnBuffer,
        Option.isSome_none, Bool.false_eq_true, if_false, List.length_cons, List.length_nil]
      omega

/-- **Once `stop_streams` has posted its message, the result thread comes to its end**: it takes the
messages that are queued, and nothing that the HAL returns from then on adds to them. -/
theorem result_thread_stops {acts : List Act} {s₀ : Device} (h₀ : Run cfg (fun _ _ => True) s₀)
    (hposted : 4 ≤ s₀.stopPc.stage) (h : exec (step cfg) (fun _ _ => True) acts s₀ = some s) :
    countAlong (step cfg) isResult acts s₀ ≤ s₀.currentSteps + s₀.queuedSteps + 1 := by
  have hinv : ∀ a t t', AtStage cfg 4 t → True → step cfg a t = some t' → AtStage cfg 4 t' :=
    fun _ _ _ ht _ hstep => ht.step hstep
  have hwaits : s₀.resultThread.messageQueue.waits 0 ≤ 1 :=
    @BlockingQueue.waits_le_one _ 0 (fun _ _ => True) _ _
      (reachable_messageQueue h₀ fun _ _ _ _ _ => trivial) (Nat.zero_le 1)
  have hcount := countAlong_add_le (p := isResult) (μ := resultStepsLeft) hinv
    (fun a t t' ht _ hstep => ?_) h ⟨h₀, hposted⟩
  · have hle : s₀.resultStepsLeft ≤ s₀.currentSteps + s₀.queuedSteps + 1 := by
      unfold resultStepsLeft
      split_ifs <;> omega
    omega
  · obtain ⟨hfault, hs⟩ := Step.of_eq hstep
    cases a with
    | result a =>
        cases hs with
        | result hs => exact hs.stepsLeft hfault (items_ne_nil ht.run ht.stage)
    | request | hal | encoderReturn | stop | user =>
        obtain ⟨hpc, hqueue⟩ := hs.messageQueue_of_stopped (stages ht.run) ht.stage (by simp)
        exact resultStepsLeft_congr hfault hpc hqueue

/-- The result of frame `0` is still queued, and that of frame `1` comes too late. -/
theorem delivers_after_stop :
    ∃ s₀ s, ∃ acts : List Act, Run (previewSetup 2) (fun _ _ => True) s₀ ∧
      4 ≤ s₀.stopPc.stage ∧ s₀.currentSteps + s₀.queuedSteps = 8 ∧
      exec (step (previewSetup 2)) (fun _ _ => True) acts s₀ = some s ∧
      s.stopPc = .drain 5 ∧ s.log.delivered = [resultZero] ∧
      countAlong (step (previewSetup 2)) isResult acts s₀ ≤ 8 + 1 := by
  obtain ⟨s₀, hr, hst, hsteps, hexec⟩ :
      ∃ s₀, Run (previewSetup 2) (fun _ _ => True) s₀ ∧ 4 ≤ s₀.stopPc.stage ∧
        s₀.currentSteps + s₀.queuedSteps = 8 ∧
        (exec (step (previewSetup 2)) (fun _ _ => True)
          ([.result .take] ++ deliverResult ⟨1, [⟨1, 1⟩], 1⟩ ++
            [.result .callback, .result .callback, .result .giveBack, .result .giveBack,
              .result .take, .stop .joinResult]) s₀).any
          (fun s => decide (s.stopPc = .drain 5 ∧ s.log.delivered = [resultZero])) = true :=
    Run.exists_of_exec
      (acceptRequest ++ acceptRequest ++ deliverResult resultZero ++ [.stop .begin,
        .stop .postRequest, .request .iterate, .request .iterate, .stop .joinRequest,
        .stop .postResult]) (by decide +kernel)
  obtain ⟨s, hs, hend⟩ := (Option.any_eq_true _ _).mp hexec
  obtain ⟨hpc, hdelivered⟩ := of_decide_eq_true hend
  have hstops := result_thread_stops hr hst hs
  rw [hsteps] at hstops
  exact ⟨s₀, s, _, hr, hst, hsteps, hs, hpc, hdelivered, hstops⟩

end Device

end QCamx
