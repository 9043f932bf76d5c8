import QCamx.Device.Step

/-!
# What a step of a device can do

For each thread one inductive relation lists its steps with their guards and their results, and one
lemma, `RequestStep.of_eq` and its like, says that the step function does nothing else. Proofs about
runs use the relations and never unfold the step functions.
-/

namespace QCamx

namespace Device

variable (cfg : Setup) (s : Device)

/-! ## The request thread -/

/-- The steps of the request thread. -/
inductive RequestStep : RequestAct → Device → Prop
  | exit (hpc : s.requestPc = .loop) (hstop : s.requestThread.stopped = true) :
      RequestStep .iterate { s with requestPc := .exited }
  | stopMessage {msg : CameraRequestMsg} {queue : List CameraRequestMsg} (hpc : s.requestPc = .loop)
      (hstop : s.requestThread.stopped = false)
      (hq : s.requestThread.messageQueue = msg :: queue) (htype : msg.messageType = .startStop)
      (hmsg : msg.stop = 1) :
      RequestStep .iterate
        { s with requestThread := { s.requestThread with messageQueue := queue, stopped := true } }
  | otherMessage {msg : CameraRequestMsg} {queue : List CameraRequestMsg}
      (hpc : s.requestPc = .loop) (hstop : s.requestThread.stopped = false)
      (hq : s.requestThread.messageQueue = msg :: queue) (htype : msg.messageType = .startStop)
      (hmsg : msg.stop ≠ 1) :
      RequestStep .iterate
        { s with
          requestThread := { s.requestThread with messageQueue := queue }
          requestPc := .limit (selectStreams s.requestThread) }
  | change {msg : CameraRequestMsg} {queue : List CameraRequestMsg} (hpc : s.requestPc = .loop)
      (hstop : s.requestThread.stopped = false)
      (hq : s.requestThread.messageQueue = msg :: queue) (htype : msg.messageType = .requestChange)
      (hfits : ∀ i < s.camera3Streams.length,
        FitsInt (requestChange s.camera3Streams.length msg s.requestThread.requestNumber i)) :
      RequestStep .iterate
        { s with
          requestThread :=
            { s.requestThread with
              messageQueue := queue
              requestNumber :=
                requestChange s.camera3Streams.length msg s.requestThread.requestNumber }
          log := { s.log with consumed := s.log.consumed ++ [msg] } }
  | changeOverflow {msg : CameraRequestMsg} {queue : List CameraRequestMsg}
      (hpc : s.requestPc = .loop) (hstop : s.requestThread.stopped = false)
      (hq : s.requestThread.messageQueue = msg :: queue) (htype : msg.messageType = .requestChange)
      (hfits : ¬ ∀ i < s.camera3Streams.length,
        FitsInt (requestChange s.camera3Streams.length msg s.requestThread.requestNumber i)) :
      RequestStep .iterate (s.fail .signedOverflow)
  | start (hpc : s.requestPc = .loop) (hstop : s.requestThread.stopped = false)
      (hq : s.requestThread.messageQueue = []) (hreq : s.hasRequest = true) :
      RequestStep .iterate { s with requestPc := .limit (selectStreams s.requestThread) }
  | idle (hpc : s.requestPc = .loop) (hstop : s.requestThread.stopped = false)
      (hq : s.requestThread.messageQueue = []) (hreq : s.hasRequest = false) :
      RequestStep .iterate { s with requestPc := .waitMessage }
  | wakeMessage (hpc : s.requestPc = .waitMessage) :
      RequestStep .wakeMessage { s with requestPc := .loop }
  | limitWait {selected : ℕ → ℕ} (hpc : s.requestPc = .limit selected)
      (hsize : cfg.maxPendingSize ≤ s.pendingVector.size) :
      RequestStep .limit { s with requestPc := .waitLimit selected, limitSignalled := false }
  | limitPass {selected : ℕ → ℕ} (hpc : s.requestPc = .limit selected)
      (hsize : s.pendingVector.size < cfg.maxPendingSize) :
      RequestStep .limit { s with requestPc := .assemble selected 0 [] }
  | limitTimeout {selected : ℕ → ℕ} (hpc : s.requestPc = .waitLimit selected) :
      RequestStep (.limitWake .timeout) { s with requestPc := .exited }
  | limitWake {selected : ℕ → ℕ} {w : Wake} (hpc : s.requestPc = .waitLimit selected)
      (hw : w ≠ .timeout) (hsig : w = .signal → s.limitSignalled = true) :
      RequestStep (.limitWake w) { s with requestPc := .assemble selected 0 [] }
  | assembled {selected : ℕ → ℕ} {i : ℕ} {buffers : List StreamBuffer}
      (hpc : s.requestPc = .assemble selected i buffers) (hi : s.camera3Streams[i]? = none) :
      RequestStep .assemble { s with requestPc := .settings selected buffers }
  | skip {selected : ℕ → ℕ} {i : ℕ} {buffers : List StreamBuffer} {stream : StreamPtr}
      (hpc : s.requestPc = .assemble selected i buffers) (hi : s.camera3Streams[i]? = some stream)
      (hsel : selected i = 0) :
      RequestStep .assemble { s with requestPc := .assemble selected (i + 1) buffers }
  | bufferWait {selected : ℕ → ℕ} {i : ℕ} {buffers : List StreamBuffer} {stream : StreamPtr}
      {m : BufferManager} (hpc : s.requestPc = .assemble selected i buffers)
      (hi : s.camera3Streams[i]? = some stream) (hsel : selected i ≠ 0)
      (hm : (s.managers i).step (.getBuffer 0) = some m) (hfree : s.buffersFree i = []) :
      RequestStep .assemble { s with managers := Function.update s.managers i m }
  | getBuffer {selected : ℕ → ℕ} {i : ℕ} {buffers : List StreamBuffer} {stream : StreamPtr}
      {m : BufferManager} {b : Buffer} {l : List Buffer} {a : RequestAct}
      (ha : a = .assemble ∧ (s.managers i).step (.getBuffer 0) = some m ∨
        ∃ w, a = .bufferWake w ∧ (s.managers i).step (.wake 0 w) = some m)
      (hpc : s.requestPc = .assemble selected i buffers)
      (hi : s.camera3Streams[i]? = some stream) (hsel : selected i ≠ 0)
      (hfree : s.buffersFree i = b :: l) :
      RequestStep a
        { s with
          managers := Function.update s.managers i m
          requestPc := .assemble selected (i + 1) (buffers ++ [⟨stream, b⟩]) }
  | bufferWakeEmpty {selected : ℕ → ℕ} {i : ℕ} {buffers : List StreamBuffer}
      {stream : StreamPtr} {m : BufferManager} {w : Wake}
      (hpc : s.requestPc = .assemble selected i buffers)
      (hi : s.camera3Streams[i]? = some stream)
      (hm : (s.managers i).step (.wake 0 w) = some m) (hfree : s.buffersFree i = []) :
      RequestStep (.bufferWake w)
        (fail { s with managers := Function.update s.managers i m } .emptyFreeList)
  | settings {selected : ℕ → ℕ} {buffers : List StreamBuffer}
      (hpc : s.requestPc = .settings selected buffers) :
      RequestStep .settings (s.takeSettings selected buffers)
  | insert {selected : ℕ → ℕ} {buffers : List StreamBuffer} {settings : Option Metadata}
      (hpc : s.requestPc = .insert selected buffers settings) :
      RequestStep .insert
        { s with
          pendingVector := s.pendingVector.add s.requestThread.frameNumber
            { request := ⟨s.requestThread.frameNumber, settings, UInt32.ofNat buffers.length⟩ }
          requestPc := .submit selected buffers }
  | submitFreed {selected : ℕ → ℕ} {buffers : List StreamBuffer} {accepted : Bool}
      (hpc : s.requestPc = .submit selected buffers)
      (hfreed : s.requestThread.frameNumber ∈ s.freed) :
      RequestStep (.submit accepted) (s.fail .useAfterFree)
  | submit {selected : ℕ → ℕ} {buffers : List StreamBuffer} {accepted : Bool}
      (hpc : s.requestPc = .submit selected buffers)
      (hfreed : s.requestThread.frameNumber ∉ s.freed) :
      RequestStep (.submit accepted)
        { s with
          inFlight := if accepted then
              s.inFlight ++ buffers.map fun b => (s.requestThread.frameNumber, b)
            else s.inFlight
          requestPc := .inCall selected buffers accepted
          log := { s.log with
            submitted := s.log.submitted ++ [⟨s.requestThread.frameNumber, buffers, accepted,
              s.requestThread.requestNumber⟩] } }
  | returnAccepted {selected : ℕ → ℕ} {buffers : List StreamBuffer}
      (hpc : s.requestPc = .inCall selected buffers true)
      (hfits : FitsInt (s.requestThread.frameNumber + 1)) :
      RequestStep .return
        { s with
          requestThread :=
            { s.requestThread with frameNumber := s.requestThread.frameNumber + 1 }
          requestPc := .unlock selected s.requestThread.frameNumber }
  | returnOverflow {selected : ℕ → ℕ} {buffers : List StreamBuffer}
      (hpc : s.requestPc = .inCall selected buffers true)
      (hfits : ¬ FitsInt (s.requestThread.frameNumber + 1)) :
      RequestStep .return (s.fail .signedOverflow)
  | returnRejected {selected : ℕ → ℕ} {buffers : List StreamBuffer}
      (hpc : s.requestPc = .inCall selected buffers false) :
      RequestStep .return { s with requestPc := .reject buffers }
  | unlockFreed {selected : ℕ → ℕ} {frame : ℕ} (hpc : s.requestPc = .unlock selected frame)
      (hfreed : frame ∈ s.freed) :
      RequestStep .unlock (s.fail .useAfterFree)
  | unlock {selected : ℕ → ℕ} {frame : ℕ} (setting : CameraMetadata)
      (hpc : s.requestPc = .unlock selected frame) (hfreed : frame ∉ s.freed)
      (hset : setting = match (s.pendingVector.find? frame).bind (·.request.settings) with
        | some settings => s.setting.unlock settings
        | none => s.setting) :
      RequestStep .unlock { s with setting := setting, requestPc := .decrement selected }
  | rejectFreed {rest : List StreamBuffer} (hpc : s.requestPc = .reject rest)
      (hfreed : s.requestThread.frameNumber ∈ s.freed) :
      RequestStep .reject (s.fail .useAfterFree)
  | rejectUnknown {b : StreamBuffer} {rest : List StreamBuffer}
      (hpc : s.requestPc = .reject (b :: rest))
      (hi : findStreamIndex s.camera3Streams b.stream = none) :
      RequestStep .reject (s.fail .unknownStream)
  | rejectReturn {b : StreamBuffer} {rest : List StreamBuffer} {i : ℕ}
      (hpc : s.requestPc = .reject (b :: rest))
      (hfreed : s.requestThread.frameNumber ∉ s.freed)
      (hi : findStreamIndex s.camera3Streams b.stream = some i) :
      RequestStep .reject { s.returnBuffer i b.buffer with requestPc := .reject rest }
  | rejectRemove {i : Fin s.pendingVector.items.length} (hpc : s.requestPc = .reject [])
      (hfreed : s.requestThread.frameNumber ∉ s.freed)
      (hi : s.pendingVector.indexOfKey s.requestThread.frameNumber = some i) :
      RequestStep .reject
        { s with pendingVector := s.pendingVector.removeItemsAt i, requestPc := .exited }
  | rejectAbsent (hpc : s.requestPc = .reject [])
      (hfreed : s.requestThread.frameNumber ∉ s.freed)
      (hi : s.pendingVector.indexOfKey s.requestThread.frameNumber = none) :
      RequestStep .reject { s with requestPc := .exited }
  | decrement {selected : ℕ → ℕ} (hpc : s.requestPc = .decrement selected) :
      RequestStep .decrement
        { s with
          requestThread :=
            { s.requestThread with
              requestNumber :=
                reduceRequest s.camera3Streams.length selected s.requestThread.requestNumber }
          requestPc := .loop }

variable {cfg s} {s' : Device}

theorem RequestStep.of_iterate (hpc : s.requestPc = .loop) :
    RequestStep cfg s .iterate s.iterate := by
  unfold iterate
  cases hstop : s.requestThread.stopped with
  | true => exact .exit hpc hstop
  | false =>
      simp only [Bool.false_eq_true, if_false]
      cases hq : s.requestThread.messageQueue with
      | nil =>
          cases hreq : s.hasRequest with
          | true => exact .start hpc hstop hq hreq
          | false => exact .idle hpc hstop hq hreq
      | cons msg queue =>
          simp only [handleMessage]
          cases htype : msg.messageType with
          | startStop =>
              by_cases hmsg : msg.stop = 1
              · rw [if_pos hmsg]
                exact .stopMessage hpc hstop hq htype hmsg
              · rw [if_neg hmsg]
                exact .otherMessage hpc hstop hq htype hmsg
          | requestChange =>
              dsimp only
              by_cases hfits : ∀ i < s.camera3Streams.length,
                FitsInt (requestChange s.camera3Streams.length msg
                  s.requestThread.requestNumber i)
              · rw [if_pos (by simpa using hfits)]
                exact .change hpc hstop hq htype hfits
              · rw [if_neg (by simpa using hfits)]
                exact .changeOverflow hpc hstop hq htype hfits

theorem RequestStep.of_assemble {selected : ℕ → ℕ} {i : ℕ} {buffers : List StreamBuffer}
    (hpc : s.requestPc = .assemble selected i buffers)
    (hs : s.assemble selected i buffers = some s') : RequestStep cfg s .assemble s' := by
  unfold assemble at hs
  cases hi : s.camera3Streams[i]? with
  | none =>
      rw [hi] at hs
      obtain rfl := Option.some.inj hs
      exact .assembled hpc hi
  | some stream =>
      simp only [hi] at hs
      split_ifs at hs with hsel
      · obtain rfl := Option.some.inj hs
        exact .skip hpc hi hsel
      · obtain ⟨m, hm, rfl⟩ := Option.map_eq_some_iff.mp hs
        cases hfree : s.buffersFree i with
        | nil => exact .bufferWait hpc hi hsel hm hfree
        | cons b l => exact .getBuffer (Or.inl ⟨rfl, hm⟩) hpc hi hsel hfree

theorem RequestStep.of_bufferWake {w : Wake} {selected : ℕ → ℕ} {i : ℕ}
    {buffers : List StreamBuffer} (hpc : s.requestPc = .assemble selected i buffers)
    (hs : s.bufferWake w selected i buffers = some s') :
    RequestStep cfg s (.bufferWake w) s' := by
  unfold bufferWake at hs
  cases hi : s.camera3Streams[i]? with
  | none => simp [hi] at hs
  | some stream =>
      simp only [hi] at hs
      by_cases hsel : selected i = 0
      · rw [if_pos hsel] at hs
        cases hs
      rw [if_neg hsel] at hs
      obtain ⟨m, hm, rfl⟩ := Option.map_eq_some_iff.mp hs
      cases hfree : s.buffersFree i with
      | nil =>
          rw [if_pos rfl]
          exact .bufferWakeEmpty hpc hi hm hfree
      | cons b l =>
          rw [if_neg (List.cons_ne_nil b l)]
          exact .getBuffer (Or.inr ⟨w, rfl, hm⟩) hpc hi hsel hfree

theorem RequestStep.of_reject {rest : List StreamBuffer} (hpc : s.requestPc = .reject rest) :
    RequestStep cfg s .reject (s.rejectStep rest) := by
  unfold rejectStep
  by_cases hfreed : s.requestThread.frameNumber ∈ s.freed
  · simp only [if_pos hfreed]
    exact .rejectFreed hpc hfreed
  · simp only [if_neg hfreed]
    cases rest with
    | nil =>
        cases hi : s.pendingVector.indexOfKey s.requestThread.frameNumber with
        | none => exact .rejectAbsent hpc hfreed hi
        | some i => exact .rejectRemove hpc hfreed hi
    | cons b rest =>
        dsimp only
        cases hi : findStreamIndex s.camera3Streams b.stream with
        | none => exact .rejectUnknown hpc hi
        | some i => exact .rejectReturn hpc hfreed hi

theorem RequestStep.of_submit {accepted : Bool} {selected : ℕ → ℕ} {buffers : List StreamBuffer}
    (hpc : s.requestPc = .submit selected buffers) :
    RequestStep cfg s (.submit accepted) (s.submit accepted selected buffers) := by
  unfold Device.submit
  by_cases hfreed : s.requestThread.frameNumber ∈ s.freed
  · simp only [if_pos hfreed]
    exact .submitFreed hpc hfreed
  · simp only [if_neg hfreed]
    exact .submit hpc hfreed

theorem RequestStep.of_return {selected : ℕ → ℕ} {buffers : List StreamBuffer} {accepted : Bool}
    (hpc : s.requestPc = .inCall selected buffers accepted) :
    RequestStep cfg s .return (s.returnFromCall selected buffers accepted) := by
  unfold returnFromCall
  cases accepted with
  | false => exact .returnRejected hpc
  | true =>
      by_cases hfits : FitsInt (s.requestThread.frameNumber + 1)
      · simp only [if_pos hfits]
        exact .returnAccepted hpc hfits
      · simp only [if_neg hfits]
        exact .returnOverflow hpc hfits

theorem RequestStep.of_unlock {selected : ℕ → ℕ} {frame : ℕ}
    (hpc : s.requestPc = .unlock selected frame) :
    RequestStep cfg s .unlock (s.unlockSettings selected frame) := by
  unfold unlockSettings
  by_cases hfreed : frame ∈ s.freed
  · simp only [if_pos hfreed]
    exact .unlockFreed hpc hfreed
  · simp only [if_neg hfreed]
    exact .unlock _ hpc hfreed rfl

/-- **The request thread does nothing else.** -/
theorem RequestStep.of_eq {a : RequestAct} (hs : s.request cfg a = some s') :
    RequestStep cfg s a s' := by
  cases a with
  | iterate =>
      simp only [request] at hs
      split at hs
      case h_1 hpc =>
        obtain rfl := Option.some.inj hs
        exact .of_iterate hpc
      case h_2 => cases hs
  | wakeMessage =>
      simp only [request] at hs
      split at hs
      case h_1 hpc =>
        obtain rfl := Option.some.inj hs
        exact .wakeMessage hpc
      case h_2 => cases hs
  | limit =>
      simp only [request] at hs
      split at hs
      case h_1 selected hpc =>
        split_ifs at hs with hsize
        · obtain rfl := Option.some.inj hs
          exact .limitWait hpc hsize
        · obtain rfl := Option.some.inj hs
          exact .limitPass hpc (not_le.mp hsize)
      case h_2 => cases hs
  | limitWake w =>
      simp only [request] at hs
      split at hs
      case h_1 selected hpc =>
        cases w with
        | timeout =>
            obtain rfl := Option.some.inj hs
            exact .limitTimeout hpc
        | signal =>
            simp only at hs
            split_ifs at hs with hsig
            obtain rfl := Option.some.inj hs
            exact .limitWake hpc (by decide) fun _ => hsig
        | spurious =>
            obtain rfl := Option.some.inj hs
            exact .limitWake hpc (by decide) (by simp)
      case h_2 => cases hs
  | assemble =>
      simp only [request] at hs
      split at hs
      case h_1 selected i buffers hpc => exact .of_assemble hpc hs
      case h_2 => cases hs
  | bufferWake w =>
      simp only [request] at hs
      split at hs
      case h_1 selected i buffers hpc => exact .of_bufferWake hpc hs
      case h_2 => cases hs
  | settings =>
      simp only [request] at hs
      split at hs
      case h_1 selected buffers hpc =>
        obtain rfl := Option.some.inj hs
        exact .settings hpc
      case h_2 => cases hs
  | insert =>
      simp only [request] at hs
      split at hs
      case h_1 selected buffers settings hpc =>
        obtain rfl := Option.some.inj hs
        exact .insert hpc
      case h_2 => cases hs
  | submit accepted =>
      simp only [request] at hs
      split at hs
      case h_1 selected buffers hpc =>
        obtain rfl := Option.some.inj hs
        exact .of_submit hpc
      case h_2 => cases hs
  | «return» =>
      simp only [request] at hs
      split at hs
      case h_1 selected buffers accepted hpc =>
        obtain rfl := Option.some.inj hs
        exact .of_return hpc
      case h_2 => cases hs
  | unlock =>
      simp only [request] at hs
      split at hs
      case h_1 selected frame hpc =>
        obtain rfl := Option.some.inj hs
        exact .of_unlock hpc
      case h_2 => cases hs
  | reject =>
      simp only [request] at hs
      split at hs
      case h_1 rest hpc =>
        obtain rfl := Option.some.inj hs
        exact .of_reject hpc
      case h_2 => cases hs
  | decrement =>
      simp only [request] at hs
      split at hs
      case h_1 selected hpc =>
        obtain rfl := Option.some.inj hs
        exact .decrement hpc
      case h_2 => cases hs

/-! ## The HAL -/

/-- The steps of the calls of `ProcessCaptureResult`. -/
inductive HalStep (s : Device) : HalAct → Device → Prop
  | callMetadata {r : CaptureResult} (hr : r.outputBuffers = []) :
      HalStep s (.call r) { s with counting := r :: s.counting }
  | call {r : CaptureResult} (hr : r.outputBuffers ≠ []) :
      HalStep s (.call r)
        { s with
          inFlight := s.inFlight.diff (r.outputBuffers.map fun b => (r.frameNumber, b))
          entering := r :: s.entering }
  | lockNull {r : CaptureResult} (hr : r ∈ s.entering) (hnull : s.resultThreadNull = true) :
      HalStep s (.lock r) (s.fail .nullResultThread)
  | lock {r : CaptureResult} (hr : r ∈ s.entering) (hheld : s.holder = none)
      (hnull : s.resultThreadNull = false) :
      HalStep s (.lock r) { s with entering := s.entering.erase r, holder := some (r, false) }
  | pushNull {r : CaptureResult} {view : List StreamBuffer} (hheld : s.holder = some (r, false))
      (hnull : s.resultThreadNull = true) :
      HalStep s (.push view) (s.fail .nullResultThread)
  | pushStopped {r : CaptureResult} {view : List StreamBuffer}
      (hheld : s.holder = some (r, false)) (hnull : s.resultThreadNull = false)
      (hstop : s.resultThread.stopped = true) :
      HalStep s (.push view)
        { s with
          holder := some (r, true)
          log := { s.log with arrivals := s.log.arrivals ++ [(r, true)] } }
  | push {r : CaptureResult} {view : List StreamBuffer} (hheld : s.holder = some (r, false))
      (hview : view.length = r.outputBuffers.length) (hnull : s.resultThreadNull = false)
      (hstop : s.resultThread.stopped = false) :
      HalStep s (.push view)
        (pushResult ⟨{ r with outputBuffers := view }, r.outputBuffers, false⟩
          { s with
            holder := some (r, true)
            log := { s.log with arrivals := s.log.arrivals ++ [(r, false)] } })
  | unlockNull {r : CaptureResult} (hheld : s.holder = some (r, true))
      (hnull : s.resultThreadNull = true) :
      HalStep s .unlock (s.fail .nullResultThread)
  | unlock {r : CaptureResult} (hheld : s.holder = some (r, true))
      (hnull : s.resultThreadNull = false) :
      HalStep s .unlock { s with holder := none, counting := r :: s.counting }
  | countAbsent {r : CaptureResult} (hr : r ∈ s.counting)
      (hi : s.pendingVector.indexOfKey r.frameNumber = none) :
      HalStep s (.count r)
        { s with
          counting := s.counting.erase r
          log := { s.log with counted := s.log.counted ++ [r] } }
  | countComplete {r : CaptureResult} {i : Fin s.pendingVector.items.length} (hr : r ∈ s.counting)
      (hi : s.pendingVector.indexOfKey r.frameNumber = some i)
      (hc : Complete (countResult r (s.pendingVector.valueAt i))) :
      HalStep s (.count r)
        { s.signalPending with
          pendingVector := s.pendingVector.removeItemsAt i
          freed := s.freed ++ [r.frameNumber]
          counting := s.counting.erase r
          log := { s.signalPending.log with counted := s.log.counted ++ [r] } }
  | count {r : CaptureResult} {i : Fin s.pendingVector.items.length} (hr : r ∈ s.counting)
      (hi : s.pendingVector.indexOfKey r.frameNumber = some i)
      (hc : ¬ Complete (countResult r (s.pendingVector.valueAt i))) :
      HalStep s (.count r)
        { s with
          pendingVector :=
            s.pendingVector.editValueAt i (countResult r (s.pendingVector.valueAt i))
          counting := s.counting.erase r
          log := { s.log with counted := s.log.counted ++ [r] } }

theorem HalStep.of_count {r : CaptureResult} (hr : r ∈ s.counting) :
    HalStep s (.count r)
      { s.countPending r with
        counting := s.counting.erase r
        log := { (s.countPending r).log with counted := s.log.counted ++ [r] } } := by
  unfold countPending
  cases hi : s.pendingVector.indexOfKey r.frameNumber with
  | none => exact .countAbsent hr hi
  | some i =>
      dsimp only
      by_cases hc : Complete (countResult r (s.pendingVector.valueAt i))
      · rw [if_pos hc]
        exact .countComplete hr hi hc
      · rw [if_neg hc]
        exact .count hr hi hc

theorem HalStep.of_eq {a : HalAct} (hs : s.hal a = some s') : HalStep s a s' := by
  cases a with
  | call r =>
      simp only [hal] at hs
      split_ifs at hs with hr
      · obtain rfl := Option.some.inj hs
        simpa [hr] using @HalStep.callMetadata s r hr
      · obtain rfl := Option.some.inj hs
        exact .call hr
  | lock r =>
      simp only [hal] at hs
      split_ifs at hs with hr hnull
      all_goals
        obtain rfl := Option.some.inj hs
        simp only [not_or, not_not, Bool.not_eq_true, Option.isSome_eq_false_iff,
          Option.isNone_iff_eq_none] at hr
      · exact .lockNull hr.1 hnull
      · exact .lock hr.1 hr.2 (by simpa using hnull)
  | push view =>
      simp only [hal] at hs
      split at hs
      case h_1 r hheld =>
        split_ifs at hs with hview hnull hstop
        all_goals obtain rfl := Option.some.inj hs
        · exact .pushNull hheld hnull
        · rw [hstop]
          exact .pushStopped hheld (by simpa using hnull) hstop
        · have hstop' : s.resultThread.stopped = false := by simpa using hstop
          rw [hstop']
          exact .push hheld (not_not.mp hview) (by simpa using hnull) hstop'
      case h_2 => cases hs
  | unlock =>
      simp only [hal] at hs
      split at hs
      case h_1 r hheld =>
        split_ifs at hs with hnull
        all_goals obtain rfl := Option.some.inj hs
        · exact .unlockNull hheld hnull
        · exact .unlock hheld (by simpa using hnull)
      case h_2 => cases hs
  | count r =>
      simp only [hal] at hs
      split_ifs at hs with hr
      obtain rfl := Option.some.inj hs
      exact .of_count hr

/-! ## The result thread -/

/-- The action by which the result thread takes from its queue. -/
def takeAct : ResultAct → Option (BlockingQueue.Act CameraPostProcessMsg)
  | .take => some (.take 0)
  | .wake w => some (.wake 0 w)
  | _ => none

variable (cfg s) in
/-- The steps of the result thread. -/
inductive ResultStep : ResultAct → Device → Prop
  | wait {a : ResultAct} {act : BlockingQueue.Act CameraPostProcessMsg}
      {q : BlockingQueue CameraPostProcessMsg} (hpc : s.resultPc = .top) (hheld : s.holder = none)
      (hact : takeAct a = some act)
      (hq : BlockingQueue.step act s.resultThread.messageQueue = some q)
      (hitems : a = .wake .timeout ∨ a = .take ∧ s.resultThread.messageQueue.items = []) :
      ResultStep a { s with resultThread := { s.resultThread with messageQueue := q } }
  | wakeEmpty {w : Wake} {q : BlockingQueue CameraPostProcessMsg} (hpc : s.resultPc = .top)
      (hheld : s.holder = none) (hw : w ≠ .timeout)
      (hq : BlockingQueue.step (.wake 0 w) s.resultThread.messageQueue = some q)
      (hitems : s.resultThread.messageQueue.items = []) :
      ResultStep (.wake w)
        (fail { s with resultThread := { s.resultThread with messageQueue := q } }
          .emptyResultQueue)
  | popStop {a : ResultAct} {act : BlockingQueue.Act CameraPostProcessMsg}
      {q : BlockingQueue CameraPostProcessMsg} {msg : CameraPostProcessMsg}
      {l : List CameraPostProcessMsg} (hpc : s.resultPc = .top) (hheld : s.holder = none)
      (ha : a ≠ .wake .timeout) (hact : takeAct a = some act)
      (hq : BlockingQueue.step act s.resultThread.messageQueue = some q)
      (hitems : s.resultThread.messageQueue.items = msg :: l) (hmsg : msg.stop = true) :
      ResultStep a
        { s with
          resultThread := { s.resultThread with messageQueue := q }
          resultPc := .exited }
  | pop {a : ResultAct} {act : BlockingQueue.Act CameraPostProcessMsg}
      {q : BlockingQueue CameraPostProcessMsg} {msg : CameraPostProcessMsg}
      {l : List CameraPostProcessMsg} (hpc : s.resultPc = .top) (hheld : s.holder = none)
      (ha : a ≠ .wake .timeout) (hact : takeAct a = some act)
      (hq : BlockingQueue.step act s.resultThread.messageQueue = some q)
      (hitems : s.resultThread.messageQueue.items = msg :: l) (hmsg : msg.stop = false) :
      ResultStep a
        { s with
          resultThread := { s.resultThread with messageQueue := q }
          resultPc := .callback msg msg.streamBuffers
          log := { s.log with
            delivered := s.log.delivered ++
              [{ msg.result with outputBuffers := msg.streamBuffers }] } }
  | callback {msg : CameraPostProcessMsg} {b : StreamBuffer} {rest : List StreamBuffer}
      {effects : List Effect} {caseState : CaseState}
      (hpc : s.resultPc = .callback msg (b :: rest))
      (heff : postProcessStep cfg.testCase cfg.config s.camera3Streams cfg.cameraStreams
        msg.result.frameNumber b s.caseState = some (effects, caseState)) :
      ResultStep .callback
        { effects.foldl applyEffect s with
          caseState := caseState
          resultPc := .callback msg rest
          log := { s.log with effects := s.log.effects ++ effects } }
  | callbackUnknown {msg : CameraPostProcessMsg} {b : StreamBuffer} {rest : List StreamBuffer}
      (hpc : s.resultPc = .callback msg (b :: rest))
      (heff : postProcessStep cfg.testCase cfg.config s.camera3Streams cfg.cameraStreams
        msg.result.frameNumber b s.caseState = none) :
      ResultStep .callback (s.fail .unknownStream)
  | callbackInternal {msg : CameraPostProcessMsg} (hpc : s.resultPc = .callback msg [])
      (hmode : cfg.syncBufferMode ≠ .external) :
      ResultStep .callback { s with resultPc := .giveBack msg msg.streamBuffers }
  | callbackExternal {msg : CameraPostProcessMsg} (hpc : s.resultPc = .callback msg [])
      (hmode : cfg.syncBufferMode = .external) :
      ResultStep .callback { s with resultPc := .top }
  | giveBack {msg : CameraPostProcessMsg} {b : StreamBuffer} {rest : List StreamBuffer} {i : ℕ}
      (hpc : s.resultPc = .giveBack msg (b :: rest))
      (hi : findStreamIndex s.camera3Streams b.stream = some i) :
      ResultStep .giveBack { s.returnBuffer i b.buffer with resultPc := .giveBack msg rest }
  | giveBackUnknown {msg : CameraPostProcessMsg} {b : StreamBuffer} {rest : List StreamBuffer}
      (hpc : s.resultPc = .giveBack msg (b :: rest))
      (hi : findStreamIndex s.camera3Streams b.stream = none) :
      ResultStep .giveBack (s.fail .unknownStream)
  | giveBackDone {msg : CameraPostProcessMsg} (hpc : s.resultPc = .giveBack msg []) :
      ResultStep .giveBack { s with resultPc := .top }

theorem ResultStep.of_pop {a : ResultAct} {act : BlockingQueue.Act CameraPostProcessMsg}
    {q : BlockingQueue CameraPostProcessMsg} {msg : CameraPostProcessMsg}
    {l : List CameraPostProcessMsg} (hpc : s.resultPc = .top) (hheld : s.holder = none)
    (ha : a ≠ .wake .timeout) (hact : takeAct a = some act)
    (hq : BlockingQueue.step act s.resultThread.messageQueue = some q)
    (hitems : s.resultThread.messageQueue.items = msg :: l) :
    ResultStep cfg s a (s.afterPop (msg :: l) q) := by
  simp only [afterPop]
  cases hmsg : msg.stop with
  | true => exact .popStop hpc hheld ha hact hq hitems hmsg
  | false => exact .pop hpc hheld ha hact hq hitems hmsg

theorem ResultStep.of_take {act : BlockingQueue.Act CameraPostProcessMsg}
    {q : BlockingQueue CameraPostProcessMsg} (hact : takeAct .take = some act)
    (hpc : s.resultPc = .top) (hheld : s.holder = none)
    (hq : BlockingQueue.step act s.resultThread.messageQueue = some q) :
    ResultStep cfg s .take (s.afterPop s.resultThread.messageQueue.items q) := by
  cases hitems : s.resultThread.messageQueue.items with
  | nil => exact .wait hpc hheld hact hq (Or.inr ⟨rfl, hitems⟩)
  | cons msg l => exact .of_pop hpc hheld (by simp) hact hq hitems

theorem ResultStep.of_wake {w : Wake} {q : BlockingQueue CameraPostProcessMsg}
    (hpc : s.resultPc = .top) (hheld : s.holder = none)
    (hq : BlockingQueue.step (.wake 0 w) s.resultThread.messageQueue = some q) :
    ResultStep cfg s (.wake w)
      (if w = .timeout then s.afterPop [] q
      else if s.resultThread.messageQueue.items = [] then
        (s.afterPop [] q).fail .emptyResultQueue
      else s.afterPop s.resultThread.messageQueue.items q) := by
  by_cases hw : w = .timeout
  · subst hw
    exact .wait hpc hheld rfl hq (Or.inl rfl)
  · rw [if_neg hw]
    cases hitems : s.resultThread.messageQueue.items with
    | nil =>
        rw [if_pos rfl]
        exact .wakeEmpty hpc hheld hw hq hitems
    | cons msg l =>
        rw [if_neg (List.cons_ne_nil msg l)]
        exact .of_pop hpc hheld (fun h => hw (ResultAct.wake.inj h)) rfl hq hitems

theorem ResultStep.of_eq {a : ResultAct} (hs : s.result cfg a = some s') :
    ResultStep cfg s a s' := by
  cases a with
  | take =>
      simp only [result] at hs
      split at hs
      case isTrue => cases hs
      case isFalse hpc =>
        simp only [not_or, not_not, Bool.not_eq_true, Option.isSome_eq_false_iff,
          Option.isNone_iff_eq_none] at hpc
        obtain ⟨q, hq, rfl⟩ := Option.map_eq_some_iff.mp hs
        exact .of_take rfl hpc.1 hpc.2 hq
  | wake w =>
      simp only [result] at hs
      split at hs
      case isTrue => cases hs
      case isFalse hpc =>
        simp only [not_or, not_not, Bool.not_eq_true, Option.isSome_eq_false_iff,
          Option.isNone_iff_eq_none] at hpc
        obtain ⟨q, hq, rfl⟩ := Option.map_eq_some_iff.mp hs
        exact .of_wake hpc.1 hpc.2 hq
  | callback =>
      simp only [result] at hs
      split at hs
      case h_1 msg rest hpc =>
        obtain rfl := Option.some.inj hs
        unfold callbackStep
        cases rest with
        | nil =>
            dsimp only
            by_cases hmode : cfg.syncBufferMode ≠ .external
            · rw [if_pos hmode]
              exact .callbackInternal hpc hmode
            · rw [if_neg hmode]
              exact .callbackExternal hpc (not_not.mp hmode)
        | cons b rest =>
            dsimp only
            split
            case h_1 effects caseState heff => exact .callback hpc heff
            case h_2 heff => exact .callbackUnknown hpc heff
      case h_2 => cases hs
  | giveBack =>
      simp only [result] at hs
      split at hs
      case h_1 msg rest hpc =>
        obtain rfl := Option.some.inj hs
        unfold giveBackStep
        cases rest with
        | nil => exact .giveBackDone hpc
        | cons b rest =>
            dsimp only
            split
            case h_1 i hi => exact .giveBack hpc hi
            case h_2 hi => exact .giveBackUnknown hpc hi
      case h_2 => cases hs

/-! ## The stopping thread -/

variable (cfg s) in
/-- The steps of the thread that runs `stop`. -/
inductive StopStep : StopAct → Device → Prop
  | begin (hpc : s.stopPc = .running) :
      StopStep .begin
        { s with caseState := setStop cfg.testCase s.caseState, stopPc := .postRequest }
  | postRequest (hpc : s.stopPc = .postRequest) :
      StopStep .postRequest
        { s with
          requestThread := { s.requestThread with
            messageQueue := s.requestThread.messageQueue ++ [⟨.startStop, 0, fun _ => 0, 1⟩] }
          stopPc := .joinRequest }
  | joinRequest (hpc : s.stopPc = .joinRequest) (hexit : s.requestPc = .exited) :
      StopStep .joinRequest { s with stopPc := .postResult }
  | postResult (hpc : s.stopPc = .postResult) (hheld : s.holder = none) :
      StopStep .postResult
        { s with
          resultThread :=
            { s.resultThread with
              messageQueue := s.resultThread.messageQueue.push ⟨⟨0, [], 0⟩, [], true⟩
                s.resultThread.messageQueue.waiting
              stopped := true }
          stopPc := .joinResult }
  | joinResult (hpc : s.stopPc = .joinResult) (hexit : s.resultPc = .exited) :
      StopStep .joinResult { s with stopPc := .drain 5 }
  | drained {tryCount : ℕ} (hpc : s.stopPc = .drain tryCount)
      (hempty : s.pendingVector.isEmpty = true) :
      StopStep .drain { s with stopPc := .delete }
  | drainWait {tryCount : ℕ} (hpc : s.stopPc = .drain tryCount)
      (hempty : s.pendingVector.isEmpty = false) (htry : 0 < tryCount) :
      StopStep .drain { s with stopPc := .waitPending tryCount, drainSignalled := false }
  | forcedClear (hpc : s.stopPc = .drain 0) (hempty : s.pendingVector.isEmpty = false) :
      StopStep .drain { s with pendingVector := s.pendingVector.clear, stopPc := .delete }
  | timeout {tryCount : ℕ} (hpc : s.stopPc = .waitPending tryCount) :
      StopStep (.wake .timeout) { s with stopPc := .drain (tryCount - 1) }
  | wake {tryCount : ℕ} {w : Wake} (hpc : s.stopPc = .waitPending tryCount) (hw : w ≠ .timeout)
      (hsig : w = .signal → s.drainSignalled = true) :
      StopStep (.wake w) { s with stopPc := .drain tryCount }
  | delete (hpc : s.stopPc = .delete) :
      StopStep .delete
        { s with
          resultThreadNull := true
          currentMetadata := s.currentMetadata.clear
          camera3Streams := []
          stopPc := .stopped }

theorem StopStep.of_eq {a : StopAct} (hs : s.stop cfg a = some s') : StopStep cfg s a s' := by
  cases a with
  | begin =>
      simp only [stop] at hs
      split_ifs at hs with hpc
      obtain rfl := Option.some.inj hs
      exact .begin hpc
  | postRequest =>
      simp only [stop] at hs
      split_ifs at hs with hpc
      obtain rfl := Option.some.inj hs
      exact .postRequest hpc
  | joinRequest =>
      simp only [stop] at hs
      split at hs
      case h_1 hpc hexit =>
        obtain rfl := Option.some.inj hs
        exact .joinRequest hpc hexit
      case h_2 => cases hs
  | postResult =>
      simp only [stop] at hs
      split_ifs at hs with hpc
      simp only [not_or, not_not, Bool.not_eq_true, Option.isSome_eq_false_iff,
        Option.isNone_iff_eq_none] at hpc
      obtain rfl := Option.some.inj hs
      exact .postResult hpc.1 hpc.2
  | joinResult =>
      simp only [stop] at hs
      split_ifs at hs with hpc
      obtain rfl := Option.some.inj hs
      exact .joinResult hpc.1 hpc.2
  | drain =>
      simp only [stop] at hs
      split at hs
      case h_1 tryCount hpc =>
        split_ifs at hs with hempty htry
        all_goals obtain rfl := Option.some.inj hs
        · exact .drained hpc hempty
        · exact .drainWait hpc (by simpa using hempty) htry
        · obtain rfl : tryCount = 0 := by omega
          exact .forcedClear hpc (by simpa using hempty)
      case h_2 => cases hs
  | wake w =>
      simp only [stop] at hs
      split at hs
      case h_1 tryCount hpc =>
        cases w with
        | timeout =>
            obtain rfl := Option.some.inj hs
            exact .timeout hpc
        | signal =>
            simp only at hs
            split_ifs at hs with hsig
            obtain rfl := Option.some.inj hs
            exact .wake hpc (by decide) fun _ => hsig
        | spurious =>
            obtain rfl := Option.some.inj hs
            exact .wake hpc (by decide) (by simp)
      case h_2 => cases hs
  | delete =>
      simp only [stop] at hs
      split_ifs at hs with hpc
      obtain rfl := Option.some.inj hs
      exact .delete hpc

/-! ## Commands -/

variable (cfg s) in
/-- The steps of the commands. -/
inductive UserStep : UserAct → Device → Prop
  | requestCapture {count : ℤ} {msg : CameraRequestMsg} {caseState : CaseState}
      (hpc : s.stopPc = .running)
      (hmsg : QCamx.requestCapture cfg.testCase cfg.config count = some msg)
      (hcase : caseState.stop = s.caseState.stop) :
      UserStep (.requestCapture count)
        { s with
          caseState := caseState
          requestThread :=
            { s.requestThread with messageQueue := s.requestThread.messageQueue ++ [msg] } }
  | requestIgnored {count : ℤ} {caseState : CaseState} (hpc : s.stopPc = .running)
      (hmsg : QCamx.requestCapture cfg.testCase cfg.config count = none)
      (hcase : caseState.stop = s.caseState.stop) :
      UserStep (.requestCapture count) { s with caseState := caseState }
  | triggerDump {count interval : ℤ} (hpc : s.stopPc = .running) :
      UserStep (.triggerDump count interval)
        { s with caseState := QCamx.triggerDump count interval s.caseState }
  | metadata {a : UserAct} {current : CameraMetadata} {list : List CameraMetadata}
      (hpc : s.stopPc = .running) :
      UserStep a { s with currentMetadata := current, settingMetadataList := list }

theorem UserStep.of_eq {a : UserAct} (hs : s.user cfg a = some s') : UserStep cfg s a s' := by
  unfold user at hs
  split at hs
  case isTrue => cases hs
  case isFalse hpc =>
    have hpc := not_not.mp hpc
    cases a with
    | requestCapture count =>
        simp only at hs
        cases hmsg : QCamx.requestCapture cfg.testCase cfg.config count with
        | none =>
            rw [hmsg] at hs
            obtain rfl := Option.some.inj hs
            split_ifs
            · exact .requestIgnored hpc hmsg rfl
            · exact @UserStep.requestIgnored cfg s count s.caseState hpc hmsg rfl
        | some msg =>
            rw [hmsg] at hs
            obtain rfl := Option.some.inj hs
            split_ifs
            · exact .requestCapture hpc hmsg rfl
            · exact @UserStep.requestCapture cfg s count msg s.caseState hpc hmsg rfl
    | triggerDump count interval =>
        obtain rfl := Option.some.inj hs
        exact .triggerDump hpc
    | setCurrentMeta metadata =>
        obtain rfl := Option.some.inj hs
        exact .metadata hpc
    | editCurrentMeta tag data =>
        obtain rfl := Option.some.inj hs
        exact @UserStep.metadata cfg s _ _ s.settingMetadataList hpc
    | updateMetadata metadata =>
        obtain rfl := Option.some.inj hs
        exact @UserStep.metadata cfg s _ s.currentMetadata _ hpc

/-! ## All threads -/

variable (cfg s) in
/-- The steps of a device. -/
inductive Step : Act → Device → Prop
  | request {a : RequestAct} {s' : Device} (h : RequestStep cfg s a s') : Step (.request a) s'
  | hal {a : HalAct} {s' : Device} (h : HalStep s a s') : Step (.hal a) s'
  | result {a : ResultAct} {s' : Device} (h : ResultStep cfg s a s') : Step (.result a) s'
  | encoderReturn {t : ℕ × Buffer} (ht : t ∈ s.encoder) :
      Step (.encoderReturn t) { s.returnBuffer t.1 t.2 with encoder := s.encoder.erase t }
  | stop {a : StopAct} {s' : Device} (h : StopStep cfg s a s') : Step (.stop a) s'
  | user {a : UserAct} {s' : Device} (h : UserStep cfg s a s') : Step (.user a) s'

/-- **A device that steps has no fault, and one of its threads has stepped.** -/
theorem Step.of_eq {a : Act} (hs : step cfg a s = some s') :
    s.fault = none ∧ Step cfg s a s' := by
  unfold step at hs
  split at hs
  case isTrue => cases hs
  case isFalse hfault =>
    refine ⟨by simpa using hfault, ?_⟩
    cases a with
    | request a => exact .request (.of_eq hs)
    | hal a => exact .hal (.of_eq hs)
    | result a => exact .result (.of_eq hs)
    | encoderReturn t =>
        simp only [Device.encoderReturn] at hs
        split_ifs at hs with ht
        obtain rfl := Option.some.inj hs
        exact .encoderReturn ht
    | stop a => exact .stop (.of_eq hs)
    | user a => exact .user (.of_eq hs)

end Device

end QCamx
