import QCamx.Device.Places
import QCamx.Device.Safety

/-!
# The threads wait for somebody who can go on

`get_buffer` has no timeout. Where the request thread finds no buffer of a stream free, all buffers
of the stream are out, and none of them is among those that it has collected itself. They are with
the HAL, or a thread of the program has a step by which one of them is on its way back. So
`stop_streams`, which waits for both threads without a timeout, is not stuck either.

* `collected_elsewhere`: the collected buffers are of the streams before;
* `awakeForResults`, `awakeForBuffers`: no thread is left asleep beside what it waits for;
* `Moves`: the steps by which a buffer moves on;
* **`exists_mover`**: the request thread never waits for itself, nor for a thread that is blocked;
* **`stop_goes_on`**: from its call to its return `stop` is never stuck, unless the HAL holds what
  the request thread needs.
-/

namespace QCamx

open Guarded

namespace Device

variable {cfg : Setup} {s s' : Device}

/-! ## The request under construction -/

theorem lt_of_mem_chosen {streams : List StreamPtr} (hnodup : streams.Nodup) {selected : ℕ → ℕ}
    {n : ℕ} {p : StreamPtr} (hp : p ∈ chosen streams selected n) : streams.idxOf p < n := by
  rw [chosen, List.mem_filterMap] at hp
  obtain ⟨j, hj, he⟩ := hp
  split_ifs at he
  obtain ⟨hlt, rfl⟩ := List.getElem?_eq_some_iff.mp he
  rw [hnodup.idxOf_getElem]
  exact List.mem_range.mp hj

/-- **The collected buffers are of the streams before the one the thread is at.** -/
theorem collected_elsewhere {ok : Act → Device → Prop} (h : Run cfg ok s) {selected : ℕ → ℕ} {i : ℕ}
    {buffers : List StreamBuffer} (hpc : s.requestPc = .assemble selected i buffers) (b : Buffer) :
    (i, b) ∉ buffers.map (atManager cfg.camera3Streams) := by
  intro hmem
  obtain ⟨c, hc, he⟩ := List.mem_map.mp hmem
  have hiter := (selectionInv h).iteration
  simp only [hpc, Iteration] at hiter
  have hchosen : c.stream ∈ chosen cfg.camera3Streams selected i := by
    rw [← hiter.2.2]
    exact List.mem_map_of_mem hc
  have hlt := lt_of_mem_chosen cfg.nodup_streams hchosen
  have hi : cfg.camera3Streams.idxOf c.stream = i := congrArg Prod.fst he
  omega

/-- The stream whose buffer the request thread is to get. -/
def collecting (s : Device) : Option ℕ :=
  match s.requestPc with
  | .assemble _ i _ => some i
  | _ => none

/-! ## Nobody sleeps beside what it waits for -/

theorem wakesAll_takeAct {a : ResultAct} {act : BlockingQueue.Act CameraPostProcessMsg}
    (ha : takeAct a = some act) (q : BlockingQueue CameraPostProcessMsg) :
    BlockingQueue.WakesAll act q := by
  cases a with
  | take | wake =>
      obtain rfl := Option.some.inj ha
      trivial
  | callback | giveBack => cases ha

theorem awakeForResults_step {a : Act} (h : s.resultThread.messageQueue.AwakeForItems)
    (hs : Step cfg s a s') : s'.resultThread.messageQueue.AwakeForItems := by
  have hpush (msg : CameraPostProcessMsg) :
      (s.pushResult msg).resultThread.messageQueue.AwakeForItems :=
    h.step (a := .push msg s.resultThread.messageQueue.waiting) (fun _ => id) rfl
  cases hs with
  | request hs => rwa [hs.frame.resultThread]
  | hal hs =>
      cases hs with
      | push => exact hpush _
      | _ => exact h
  | result hs =>
      cases hs with
      | wait hpc hheld hact hq => exact h.step (wakesAll_takeAct hact _) hq
      | @wakeEmpty w q hpc hheld hw hq => exact h.step (wakesAll_takeAct (a := .wake w) rfl _) hq
      | popStop hpc hheld ha hact hq | pop hpc hheld ha hact hq =>
          exact h.step (wakesAll_takeAct hact _) hq
      | @callback msg b rest effects caseState hpc heff =>
          obtain ⟨managers, encoder, he⟩ := foldl_applyEffect effects s
          rw [he]
          exact h
      | _ => exact h
  | encoderReturn => exact h
  | stop hs =>
      cases hs with
      | postResult => exact hpush _
      | _ => exact h
  | user hs => rwa [hs.frame.resultThread]

/-- The result thread does not sleep beside a queued result. -/
theorem awakeForResults {ok : Act → Device → Prop} (h : Run cfg ok s) :
    s.resultThread.messageQueue.AwakeForItems :=
  h.invariant (P := fun s => s.resultThread.messageQueue.AwakeForItems)
    (fun hitems => absurd rfl hitems) fun _ _ _ _ hi _ _ hs => awakeForResults_step hi hs

/-- The request thread does not sleep beside a free buffer. -/
theorem awakeForBuffers {ok : Act → Device → Prop} (h : Run cfg ok s) (i : ℕ) :
    (s.managers i).buffersFree.AwakeForItems := by
  revert i
  refine h.invariant (P := fun s => ∀ i, (s.managers i).buffersFree.AwakeForItems)
    (fun i _ => rfl) fun s a s' _ hi _ _ hs => ?_
  refine hs.forall_managers (P := fun m => m.buffersFree.AwakeForItems) hi
    fun b m m' hb hm hq => hq.step ?_ (BufferManager.step_toQueue hm)
  cases hb with
  | getBuffer | wake => trivial
  | returnBuffer => exact fun _ => id

/-! ## Who moves a buffer on -/

/-- The steps by which a buffer moves on from the HAL's call to its free list. -/
def Moves : Act → Prop
  | .hal (.lock _) | .hal (.push _) | .hal .unlock | .result .take | .result (.wake .signal)
  | .result .callback | .result .giveBack | .encoderReturn _ => True
  | .hal (.call _) | .hal (.count _) | .result (.wake .spurious) | .result (.wake .timeout)
  | .request _ | .stop _ | .user _ => False

/-- Some thread of the program can move a buffer on. -/
def HasMover (cfg : Setup) (s : Device) : Prop := ∃ a, Moves a ∧ (step cfg a s).isSome = true

theorem HasMover.of_holder {p : CaptureResult × Bool} (hfault : s.fault = none)
    (hnull : s.resultThreadNull = false) (hheld : s.holder = some p) : HasMover cfg s := by
  obtain ⟨r, pushed⟩ := p
  cases pushed with
  | false =>
      refine ⟨.hal (.push r.outputBuffers), trivial, ?_⟩
      cases hstopped : s.resultThread.stopped <;>
        simp [step, hfault, Device.hal, hheld, hnull, hstopped]
  | true =>
      refine ⟨.hal .unlock, trivial, ?_⟩
      simp [step, hfault, Device.hal, hheld, hnull]

theorem HasMover.of_calling {b : StreamBuffer} (hfault : s.fault = none)
    (hnull : s.resultThreadNull = false) (hb : b ∈ s.calling) : HasMover cfg s := by
  cases hheld : s.holder with
  | some p => exact .of_holder hfault hnull hheld
  | none =>
      simp only [calling, hheld, List.append_nil, List.mem_flatMap] at hb
      obtain ⟨r, hr, -⟩ := hb
      refine ⟨.hal (.lock r), trivial, ?_⟩
      simp [step, hfault, Device.hal, hr, hheld, hnull]

theorem HasMover.of_queue (hawake : s.resultThread.messageQueue.AwakeForItems)
    (hfault : s.fault = none) (hnull : s.resultThreadNull = false) (hpc : s.resultPc = .top)
    (hitems : s.resultThread.messageQueue.items ≠ []) : HasMover cfg s := by
  cases hheld : s.holder with
  | some p => exact .of_holder hfault hnull hheld
  | none =>
      rcases hawake.exists_take hitems 0 with ⟨q, hq⟩ | ⟨q, hq⟩
      · refine ⟨.result (.wake .signal), trivial, ?_⟩
        simp [step, hfault, Device.result, hpc, hheld, hq]
      · refine ⟨.result .take, trivial, ?_⟩
        simp [step, hfault, Device.result, hpc, hheld, hq]

theorem HasMover.of_message {b : StreamBuffer} (hawake : s.resultThread.messageQueue.AwakeForItems)
    (hfault : s.fault = none) (hnull : s.resultThreadNull = false) (hexited : s.resultPc ≠ .exited)
    (hb : b ∈ s.messageBuffers cfg) : HasMover cfg s := by
  cases hpc : s.resultPc with
  | exited => exact absurd hpc hexited
  | top =>
      simp only [messageBuffers, hpc, ResultPc.buffers, List.append_nil, List.mem_flatMap] at hb
      obtain ⟨msg, hmsg, -⟩ := hb
      exact .of_queue hawake hfault hnull hpc (List.ne_nil_of_mem hmsg)
  | callback msg rest =>
      refine ⟨.result .callback, trivial, ?_⟩
      simp [step, hfault, Device.result, hpc]
  | giveBack msg rest =>
      refine ⟨.result .giveBack, trivial, ?_⟩
      simp [step, hfault, Device.result, hpc]

/-- **The request thread waits for somebody.** Where it finds no buffer of a stream free, the HAL
holds one, or some thread of the program can move one on; it never waits for buffers that it has
collected itself, nor for a thread that sleeps. -/
theorem exists_mover (h : Run cfg (ReturnsGivenOnce cfg) s) (hfault : s.fault = none)
    {selected : ℕ → ℕ} {i : ℕ} {buffers : List StreamBuffer}
    (hpc : s.requestPc = .assemble selected i buffers) (hfree : s.buffersFree i = [])
    (hallocated : cfg.allocated i ≠ []) :
    (∃ p ∈ s.inFlight, cfg.camera3Streams.idxOf p.2.stream = i) ∨ HasMover cfg s := by
  have hstages := stages h
  have hlt : s.stopPc.stage < 3 := by
    by_contra hge
    have hexited := hstages.request (by omega)
    rw [hpc] at hexited
    cases hexited
  have hstopped : s.resultThread.stopped = false := by
    rw [← Bool.not_eq_true, hstages.stopped]
    omega
  have hnull : s.resultThreadNull = false := by
    rw [← Bool.not_eq_true, hstages.null]
    omega
  have hexited : s.resultPc ≠ .exited := by
    intro hexited
    have hset := (deliveryInv h).exited hexited
    rw [hstopped] at hset
    cases hset
  obtain ⟨b, hb⟩ := List.exists_mem_of_ne_nil _ hallocated
  -- the buffer is not free, so it is somewhere else
  have hout : (i, b) ∈ s.outside cfg := by
    have hcount := (custody h (fun _ _ hok => hok) (by omega)).conserved i b
    rw [countOf, hfree, List.count_nil, Nat.zero_add] at hcount
    exact List.count_pos_iff.mp (hcount ▸ List.count_pos_iff.mpr hb)
  rw [outside, List.map_append] at hout
  rcases List.mem_append.mp hout with hencoder | hout
  · right
    refine ⟨.encoderReturn (i, b), trivial, ?_⟩
    simp [step, hfault, Device.encoderReturn, hencoder]
  rcases List.mem_append.mp hout with hrequest | hresult
  · rw [requestSide, List.map_append] at hrequest
    rcases List.mem_append.mp hrequest with hcollected | hflight
    · rw [hpc] at hcollected
      exact absurd hcollected (collected_elsewhere h hpc b)
    · left
      obtain ⟨c, hc, he⟩ := List.mem_map.mp hflight
      obtain ⟨p, hp, rfl⟩ := List.mem_map.mp hc
      exact ⟨p, hp, congrArg Prod.fst he⟩
  · right
    obtain ⟨c, hc, -⟩ := List.mem_map.mp hresult
    rw [resultSide, dropped_eq_nil h hstopped, List.append_nil] at hc
    rcases List.mem_append.mp hc with hcalling | hmessage
    · exact .of_calling hfault hnull hcalling
    · exact .of_message (awakeForResults h) hfault hnull hexited hmessage

/-! ## `stop_streams` goes on -/

/-- The steps that the threads of the program make by themselves: no command of the user, no new
call of the HAL, and no wait that returns for no reason. -/
def GoesOn : Act → Prop
  | .request (.bufferWake w) => w = .signal
  | .request (.limitWake w) | .stop (.wake w) => w ≠ .spurious
  | .request _ | .stop _ => True
  | .user _ => False
  | a => Moves a

/-- Some thread of the program can go on. -/
def CanGoOn (cfg : Setup) (s : Device) : Prop := ∃ a, GoesOn a ∧ (step cfg a s).isSome = true

/-- The request thread is to get a buffer of a stream, none is free, and the HAL holds one. -/
def AwaitsHal (cfg : Setup) (s : Device) : Prop :=
  ∃ i, s.collecting = some i ∧ s.buffersFree i = [] ∧
    ∃ p ∈ s.inFlight, cfg.camera3Streams.idxOf p.2.stream = i

theorem HasMover.canGoOn (h : HasMover cfg s) : CanGoOn cfg s := by
  obtain ⟨a, ha, hs⟩ := h
  refine ⟨a, ?_, hs⟩
  cases a with
  | request a | stop a | user a => exact ha.elim
  | hal a | result a | encoderReturn t => exact ha

theorem canGoOn_of_free {selected : ℕ → ℕ} {i : ℕ} {buffers : List StreamBuffer}
    {stream : StreamPtr} (hawake : (s.managers i).buffersFree.AwakeForItems)
    (hfault : s.fault = none) (hpc : s.requestPc = .assemble selected i buffers)
    (hi : s.camera3Streams[i]? = some stream) (hsel : selected i ≠ 0)
    (hfree : s.buffersFree i ≠ []) : CanGoOn cfg s := by
  rcases hawake.exists_take hfree 0 with ⟨q, hq⟩ | ⟨q, hq⟩
  · refine ⟨.request (.bufferWake .signal), rfl, ?_⟩
    simp [step, hfault, Device.request, hpc, bufferWake, hi, hsel, BufferManager.step, hq]
  · refine ⟨.request .assemble, trivial, ?_⟩
    simp [step, hfault, Device.request, hpc, assemble, hi, hsel, BufferManager.step, hq]

/-- **The request thread goes on** until it returns, unless it waits for the HAL. -/
theorem request_goes_on (h : Run cfg (ReturnsGivenOnce cfg) s) (hfault : s.fault = none)
    (hallocated : ∀ i < cfg.camera3Streams.length, cfg.allocated i ≠ [])
    (hexited : s.requestPc ≠ .exited) : AwaitsHal cfg s ∨ CanGoOn cfg s := by
  have hown {a : RequestAct} (ha : GoesOn (.request a))
      (hs : (s.request cfg a).isSome = true) : AwaitsHal cfg s ∨ CanGoOn cfg s :=
    Or.inr ⟨.request a, ha, by rwa [step, hfault]⟩
  cases hpc : s.requestPc with
  | exited => exact absurd hpc hexited
  | loop => exact hown (a := .iterate) trivial (by simp [Device.request, hpc])
  | waitMessage => exact hown (a := .wakeMessage) trivial (by simp [Device.request, hpc])
  | limit selected =>
      refine hown (a := .limit) trivial ?_
      simp only [Device.request, hpc]
      split_ifs <;> rfl
  | waitLimit selected =>
      exact hown (a := .limitWake .timeout) (by simp [GoesOn]) (by simp [Device.request, hpc])
  | settings selected buffers =>
      exact hown (a := .settings) trivial (by simp [Device.request, hpc])
  | insert selected buffers settings =>
      exact hown (a := .insert) trivial (by simp [Device.request, hpc])
  | submit selected buffers =>
      exact hown (a := .submit true) trivial (by simp [Device.request, hpc])
  | inCall selected buffers accepted =>
      exact hown (a := .return) trivial (by simp [Device.request, hpc])
  | unlock selected frame => exact hown (a := .unlock) trivial (by simp [Device.request, hpc])
  | reject rest => exact hown (a := .reject) trivial (by simp [Device.request, hpc])
  | decrement selected => exact hown (a := .decrement) trivial (by simp [Device.request, hpc])
  | assemble selected i buffers =>
      cases hi : s.camera3Streams[i]? with
      | none => exact hown (a := .assemble) trivial (by simp [Device.request, hpc, assemble, hi])
      | some stream =>
          by_cases hsel : selected i = 0
          · exact hown (a := .assemble) trivial
              (by simp [Device.request, hpc, assemble, hi, hsel])
          by_cases hfree : s.buffersFree i = []
          · have hlt : i < cfg.camera3Streams.length := by
              have hstreams := (stages h).streams (by
                by_contra hge
                exact hexited ((stages h).request (by omega)))
              rw [hstreams] at hi
              exact (List.getElem?_eq_some_iff.mp hi).1
            rcases exists_mover h hfault hpc hfree (hallocated i hlt) with hheld | hmover
            · exact Or.inl ⟨i, by rw [collecting, hpc], hfree, hheld⟩
            · exact Or.inr hmover.canGoOn
          · exact Or.inr (canGoOn_of_free (awakeForBuffers h i) hfault hpc hi hsel hfree)

theorem items_ne_nil_of_stopped {ok : Act → Device → Prop} (h : Run cfg ok s)
    (hstopped : s.resultThread.stopped = true) (hpc : s.resultPc ≠ .exited) :
    s.resultThread.messageQueue.items ≠ [] := by
  intro hempty
  obtain ⟨l, hl, -⟩ := (deliveryInv h).pushed
  obtain ⟨l', hl', hl'stop, -⟩ := (deliveryInv h).taken
  have hfifo := fifo_messageQueue h
  rw [BlockingQueue.Fifo, hempty, List.append_nil, hl, hl'] at hfifo
  simp only [hstopped, hpc, if_true, decide_false, Bool.false_eq_true, if_false,
    List.append_nil] at hfifo
  have hstop := hl'stop stopMsg (by rw [← hfifo]; simp)
  cases hstop

/-- **The result thread goes on** once it has been told to stop. -/
theorem result_goes_on {ok : Act → Device → Prop} (h : Run cfg ok s) (hfault : s.fault = none)
    (hstopped : s.resultThread.stopped = true) (hnull : s.resultThreadNull = false)
    (hexited : s.resultPc ≠ .exited) : CanGoOn cfg s := by
  have hown {a : ResultAct} (ha : GoesOn (.result a)) (hs : (s.result cfg a).isSome = true) :
      CanGoOn cfg s := ⟨.result a, ha, by rwa [step, hfault]⟩
  cases hpc : s.resultPc with
  | exited => exact absurd hpc hexited
  | top =>
      have hitems := items_ne_nil_of_stopped h hstopped hexited
      exact (HasMover.of_queue (awakeForResults h) hfault hnull hpc hitems).canGoOn
  | callback msg rest => exact hown (a := .callback) trivial (by simp [Device.result, hpc])
  | giveBack msg rest => exact hown (a := .giveBack) trivial (by simp [Device.result, hpc])

theorem awaitsHal_or_canGoOn (h : Run cfg (ReturnsGivenOnce cfg) s) (hfault : s.fault = none)
    (hallocated : ∀ i < cfg.camera3Streams.length, cfg.allocated i ≠ [])
    (hbegun : s.stopPc ≠ .running) (hreturned : s.stopPc ≠ .stopped) :
    AwaitsHal cfg s ∨ CanGoOn cfg s := by
  have hstages := stages h
  have hown {a : StopAct} (ha : GoesOn (.stop a)) (hs : (s.stop cfg a).isSome = true) :
      AwaitsHal cfg s ∨ CanGoOn cfg s := Or.inr ⟨.stop a, ha, by rwa [step, hfault]⟩
  cases hpc : s.stopPc with
  | running => exact absurd hpc hbegun
  | stopped => exact absurd hpc hreturned
  | postRequest => exact hown (a := .postRequest) trivial (by simp [Device.stop, hpc])
  | joinRequest =>
      by_cases hexited : s.requestPc = .exited
      · exact hown (a := .joinRequest) trivial (by simp [Device.stop, hpc, hexited])
      · exact request_goes_on h hfault hallocated hexited
  | postResult =>
      have hnull : s.resultThreadNull = false := by
        rw [← Bool.not_eq_true, hstages.null, hpc]
        decide
      cases hheld : s.holder with
      | none => exact hown (a := .postResult) trivial (by simp [Device.stop, hpc, hheld])
      | some p => exact Or.inr (HasMover.of_holder hfault hnull hheld).canGoOn
  | joinResult =>
      have hnull : s.resultThreadNull = false := by
        rw [← Bool.not_eq_true, hstages.null, hpc]
        decide
      have hstopped : s.resultThread.stopped = true := by
        rw [hstages.stopped, hpc]
        decide
      by_cases hexited : s.resultPc = .exited
      · exact hown (a := .joinResult) trivial (by simp [Device.stop, hpc, hexited])
      · exact Or.inr (result_goes_on h hfault hstopped hnull hexited)
  | drain tryCount =>
      refine hown (a := .drain) trivial ?_
      simp only [Device.stop, hpc]
      split_ifs <;> rfl
  | waitPending tryCount =>
      exact hown (a := .wake .timeout) (by simp [GoesOn]) (by simp [Device.stop, hpc])
  | delete => exact hown (a := .delete) trivial (by simp [Device.stop, hpc])

end Device

end QCamx
