import QCamx.Device.State

/-!
# The steps of the threads of a device

One function for each thread, from `qcamx_device.cpp`. `none` means that the thread is not at that
point, is blocked, or that a condition wait has no reason to return.

* `Device.request`: `do_process_capture_request` with `process_one_capture_request`;
* `Device.hal`: `CallbackOps::ProcessCaptureResult`, from any number of HAL threads;
* `Device.result`: `do_capture_post_process`;
* `Device.stop`: the `stop` of a case with `stop_streams`;
* `Device.user`: commands, which the console runs in the thread that later stops the case;
* `Device.step`: all of them, none after a fault.
-/

namespace QCamx

/-! ## Actions -/

inductive RequestAct
  | iterate | wakeMessage | limit
  | limitWake (w : Wake)
  | assemble
  | bufferWake (w : Wake)
  | settings | insert
  | submit (accepted : Bool)
  | return | unlock | reject | decrement
  deriving DecidableEq

/-- `view` is what the HAL's own array holds when the pointer to it is next followed. -/
inductive HalAct
  | call (r : CaptureResult)
  | lock (r : CaptureResult)
  | push (view : List StreamBuffer)
  | unlock
  | count (r : CaptureResult)
  deriving DecidableEq

inductive ResultAct
  | take
  | wake (w : Wake)
  | callback | giveBack
  deriving DecidableEq

inductive StopAct
  | begin | postRequest | joinRequest | postResult | joinResult | drain
  | wake (w : Wake)
  | delete
  deriving DecidableEq

inductive UserAct
  | requestCapture (count : ℤ)
  | triggerDump (count interval : ℤ)
  | setCurrentMeta (metadata : CameraMetadata)
  | editCurrentMeta (tag : ℕ) (data : List ℤ)
  | updateMetadata (metadata : CameraMetadata)
  deriving DecidableEq

inductive Act
  | request (a : RequestAct)
  | hal (a : HalAct)
  | result (a : ResultAct)
  | encoderReturn (t : ℕ × Buffer)
  | stop (a : StopAct)
  | user (a : UserAct)
  deriving DecidableEq

namespace Device

variable (cfg : Setup)

/-! ## The request thread -/

/-- Some configured stream has a non-zero `request_number`. -/
def hasRequest (s : Device) : Bool :=
  (List.range s.camera3Streams.length).any fun i => s.requestThread.requestNumber i ≠ 0

/-- `request_number_of_each_stream`. -/
def selectStreams {Queue : Type} (t : CameraThreadData Queue) (i : ℕ) : ℕ :=
  if i < maxStream ∧ t.requestNumber i ≠ 0 ∧ t.frameNumber % t.skipPattern i = 0 then 1 else 0

/-- The `request_number` of stream `i` after a `REQUEST_CHANGE` message, for `n` streams. -/
def requestChange (n : ℕ) (msg : CameraRequestMsg) (requestNumber : ℕ → ℤ) (i : ℕ) : ℤ :=
  if i < n ∧ msg.mask.testBit i then
    if requestNumber i = requestNumberUmlimit then msg.requestNumber i
    else requestNumber i + msg.requestNumber i
  else requestNumber i

/-- The `request_number` of stream `i` after one request, for `n` streams. -/
def reduceRequest (n : ℕ) (selected : ℕ → ℕ) (requestNumber : ℕ → ℤ) (i : ℕ) : ℤ :=
  if i < n ∧ 0 < requestNumber i then requestNumber i - selected i else requestNumber i

/-- The handling of the message at the front, the others being `queue`. -/
def handleMessage (msg : CameraRequestMsg) (queue : List CameraRequestMsg) (s : Device) :
    Device :=
  match msg.messageType with
  | .startStop =>
      if msg.stop = 1 then
        { s with requestThread := { s.requestThread with messageQueue := queue, stopped := true } }
      else
        { s with
          requestThread := { s.requestThread with messageQueue := queue }
          requestPc := .limit (selectStreams s.requestThread) }
  | .requestChange =>
      let n := s.camera3Streams.length
      let requestNumber := requestChange n msg s.requestThread.requestNumber
      if (List.range n).all fun i => FitsInt (requestNumber i) then
        { s with
          requestThread :=
            { s.requestThread with messageQueue := queue, requestNumber := requestNumber }
          log := { s.log with consumed := s.log.consumed ++ [msg] } }
      else s.fail .signedOverflow

/-- One iteration of `do_process_capture_request`, up to the call of
`process_one_capture_request`. -/
def iterate (s : Device) : Device :=
  if s.requestThread.stopped then { s with requestPc := .exited }
  else
    match s.requestThread.messageQueue with
    | msg :: queue => handleMessage msg queue s
    | [] =>
        if s.hasRequest then { s with requestPc := .limit (selectStreams s.requestThread) }
        else { s with requestPc := .waitMessage }

/-- The request thread, at stream `i`, has moved the stream's manager on to `m`; the free list it
popped was `free`. -/
def afterGetBuffer (selected : ℕ → ℕ) (i : ℕ) (buffers : List StreamBuffer) (stream : StreamPtr)
    (free : List Buffer) (m : BufferManager) (s : Device) : Device :=
  match free with
  | [] => { s with managers := Function.update s.managers i m }
  | b :: _ =>
      { s with
        managers := Function.update s.managers i m
        requestPc := .assemble selected (i + 1) (buffers ++ [⟨stream, b⟩]) }

/-- One round of the loop that collects the buffers. -/
def assemble (selected : ℕ → ℕ) (i : ℕ) (buffers : List StreamBuffer) (s : Device) :
    Option Device :=
  match s.camera3Streams[i]? with
  | none => some { s with requestPc := .settings selected buffers }
  | some stream =>
      if selected i = 0 then some { s with requestPc := .assemble selected (i + 1) buffers }
      else
        ((s.managers i).step (.getBuffer 0)).map fun m =>
          afterGetBuffer selected i buffers stream (s.buffersFree i) m s

/-- The wait of `get_buffer`, at a selected stream, returns, and the front buffer is popped. -/
def bufferWake (w : Wake) (selected : ℕ → ℕ) (i : ℕ) (buffers : List StreamBuffer) (s : Device) :
    Option Device :=
  match s.camera3Streams[i]? with
  | none => none
  | some stream =>
      if selected i = 0 then none
      else
        ((s.managers i).step (.wake 0 w)).map fun m =>
          let s' := afterGetBuffer selected i buffers stream (s.buffersFree i) m s
          if s.buffersFree i = [] then s'.fail .emptyFreeList else s'

/-- The critical section of `_setting_metadata_lock`. -/
def takeSettings (selected : ℕ → ℕ) (buffers : List StreamBuffer) (s : Device) : Device :=
  let setting := match s.settingMetadataList with
    | m :: _ => s.setting.assign m
    | [] => s.setting
  { s with
    settingMetadataList := s.settingMetadataList.tail
    setting := setting.getAndLock.2
    requestPc := .insert selected buffers setting.getAndLock.1 }

/-- `_pending_vector.add`. -/
def insert (selected : ℕ → ℕ) (buffers : List StreamBuffer) (settings : Option Metadata)
    (s : Device) : Device :=
  let frame := s.requestThread.frameNumber
  { s with
    pendingVector := s.pendingVector.add frame
      { request := ⟨frame, settings, UInt32.ofNat buffers.length⟩ }
    requestPc := .submit selected buffers }

/-- The call of `process_capture_request`, after a read of the settings through `pend`. A HAL
that accepts the request has its buffers from here on. -/
def submit (accepted : Bool) (selected : ℕ → ℕ) (buffers : List StreamBuffer) (s : Device) :
    Device :=
  let frame := s.requestThread.frameNumber
  if frame ∈ s.freed then s.fail .useAfterFree
  else
    { s with
      inFlight := if accepted then s.inFlight ++ buffers.map fun b => (frame, b) else s.inFlight
      requestPc := .inCall selected buffers accepted
      log := { s.log with
        submitted := s.log.submitted ++
          [⟨frame, buffers, accepted, s.requestThread.requestNumber⟩] } }

/-- The call has returned: `(*frame_number)++` where the HAL accepted. -/
def returnFromCall (selected : ℕ → ℕ) (buffers : List StreamBuffer) (accepted : Bool)
    (s : Device) : Device :=
  let frame := s.requestThread.frameNumber
  if accepted then
    if FitsInt (frame + 1) then
      { s with
        requestThread := { s.requestThread with frameNumber := frame + 1 }
        requestPc := .unlock selected frame }
    else s.fail .signedOverflow
  else { s with requestPc := .reject buffers }

/-- The read of the settings through `pend`, and `setting.unlock`. -/
def unlockSettings (selected : ℕ → ℕ) (frame : ℕ) (s : Device) : Device :=
  if frame ∈ s.freed then s.fail .useAfterFree
  else
    { s with
      setting :=
        match (s.pendingVector.find? frame).bind (·.request.settings) with
        | some settings => s.setting.unlock settings
        | none => s.setting
      requestPc := .decrement selected }

/-- One round of the loop that gives the buffers of a rejected request back, or, after it, the
removal and `delete pend`. -/
def rejectStep (rest : List StreamBuffer) (s : Device) : Device :=
  let frame := s.requestThread.frameNumber
  if frame ∈ s.freed then s.fail .useAfterFree
  else
    match rest with
    | b :: rest =>
        match findStreamIndex s.camera3Streams b.stream with
        | some i => { s.returnBuffer i b.buffer with requestPc := .reject rest }
        | none => s.fail .unknownStream
    | [] =>
        { s with
          pendingVector :=
            match s.pendingVector.indexOfKey frame with
            | some i => s.pendingVector.removeItemsAt i
            | none => s.pendingVector
          requestPc := .exited }

/-- The last critical section of an iteration. -/
def decrement (selected : ℕ → ℕ) (s : Device) : Device :=
  { s with
    requestThread :=
      { s.requestThread with
        requestNumber :=
          reduceRequest s.camera3Streams.length selected s.requestThread.requestNumber }
    requestPc := .loop }

/-- A step of the request thread. -/
def request (s : Device) : RequestAct → Option Device
  | .iterate => match s.requestPc with
    | .loop => some s.iterate
    | _ => none
  | .wakeMessage => match s.requestPc with
    | .waitMessage => some { s with requestPc := .loop }
    | _ => none
  | .limit => match s.requestPc with
    | .limit selected =>
        if cfg.maxPendingSize ≤ s.pendingVector.size then
          some { s with requestPc := .waitLimit selected, limitSignalled := false }
        else some { s with requestPc := .assemble selected 0 [] }
    | _ => none
  | .limitWake w => match s.requestPc with
    | .waitLimit selected =>
        match w with
        | .timeout => some { s with requestPc := .exited }
        | .signal =>
            if s.limitSignalled then some { s with requestPc := .assemble selected 0 [] } else none
        | .spurious => some { s with requestPc := .assemble selected 0 [] }
    | _ => none
  | .assemble => match s.requestPc with
    | .assemble selected i buffers => s.assemble selected i buffers
    | _ => none
  | .bufferWake w => match s.requestPc with
    | .assemble selected i buffers => s.bufferWake w selected i buffers
    | _ => none
  | .settings => match s.requestPc with
    | .settings selected buffers => some (s.takeSettings selected buffers)
    | _ => none
  | .insert => match s.requestPc with
    | .insert selected buffers settings => some (s.insert selected buffers settings)
    | _ => none
  | .submit accepted => match s.requestPc with
    | .submit selected buffers => some (s.submit accepted selected buffers)
    | _ => none
  | .return => match s.requestPc with
    | .inCall selected buffers accepted => some (s.returnFromCall selected buffers accepted)
    | _ => none
  | .unlock => match s.requestPc with
    | .unlock selected frame => some (s.unlockSettings selected frame)
    | _ => none
  | .reject => match s.requestPc with
    | .reject rest => some (s.rejectStep rest)
    | _ => none
  | .decrement => match s.requestPc with
    | .decrement selected => some (s.decrement selected)
    | _ => none

/-! ## The HAL's calls of `ProcessCaptureResult` -/

/-- Push onto the result queue and signal the result thread. -/
def pushResult (msg : CameraPostProcessMsg) (s : Device) : Device :=
  { s with
    resultThread :=
      { s.resultThread with
        messageQueue := s.resultThread.messageQueue.push msg
          s.resultThread.messageQueue.waiting } }

/-- The critical section of `_pending_lock`. -/
def countPending (r : CaptureResult) (s : Device) : Device :=
  match s.pendingVector.indexOfKey r.frameNumber with
  | none => s
  | some i =>
      let pend := countResult r (s.pendingVector.valueAt i)
      if Complete pend then
        { s.signalPending with
          pendingVector := s.pendingVector.removeItemsAt i
          freed := s.freed ++ [r.frameNumber] }
      else { s with pendingVector := s.pendingVector.editValueAt i pend }

/-- A step of a call of `ProcessCaptureResult`. -/
def hal (s : Device) : HalAct → Option Device
  | .call r =>
      let s' := { s with
        inFlight := s.inFlight.diff (r.outputBuffers.map fun b => (r.frameNumber, b)) }
      if r.outputBuffers = [] then some { s' with counting := r :: s.counting }
      else some { s' with entering := r :: s.entering }
  | .lock r =>
      if r ∉ s.entering ∨ s.holder.isSome then none
      else if s.resultThreadNull then some (s.fail .nullResultThread)
      else some { s with entering := s.entering.erase r, holder := some (r, false) }
  | .push view => match s.holder with
    | some (r, false) =>
        if view.length ≠ r.outputBuffers.length then none
        else if s.resultThreadNull then some (s.fail .nullResultThread)
        else
          let s' := { s with
            holder := some (r, true)
            log := { s.log with arrivals := s.log.arrivals ++ [(r, s.resultThread.stopped)] } }
          if s.resultThread.stopped then some s'
          else some (s'.pushResult ⟨{ r with outputBuffers := view }, r.outputBuffers, false⟩)
    | _ => none
  | .unlock => match s.holder with
    | some (r, true) =>
        if s.resultThreadNull then some (s.fail .nullResultThread)
        else some { s with holder := none, counting := r :: s.counting }
    | _ => none
  | .count r =>
      if r ∉ s.counting then none
      else
        some { s.countPending r with
          counting := s.counting.erase r
          log := { (s.countPending r).log with counted := s.log.counted ++ [r] } }

/-! ## The result thread -/

/-- The thread has moved its queue on to `q`, popping the front of `items`. -/
def afterPop (items : List CameraPostProcessMsg) (q : BlockingQueue CameraPostProcessMsg)
    (s : Device) : Device :=
  let s' := { s with resultThread := { s.resultThread with messageQueue := q } }
  match items with
  | [] => s'
  | msg :: _ =>
      if msg.stop then { s' with resultPc := .exited }
      else
        { s' with
          resultPc := .callback msg msg.streamBuffers
          log := { s.log with
            delivered := s.log.delivered ++
              [{ msg.result with outputBuffers := msg.streamBuffers }] } }

/-- An effect of the callback on the device. -/
def applyEffect (s : Device) : Effect → Device
  | .returnBuffer i b => s.returnBuffer i b
  | .enqueueFrameBuffer i b => { s with encoder := s.encoder ++ [(i, b)] }
  | _ => s

/-- One round of the loop of `capture_post_process`, or the end of the callback. -/
def callbackStep (msg : CameraPostProcessMsg) (rest : List StreamBuffer) (s : Device) : Device :=
  match rest with
  | b :: rest =>
      match postProcessStep cfg.testCase cfg.config s.camera3Streams cfg.cameraStreams
          msg.result.frameNumber b s.caseState with
      | some (effects, caseState) =>
          { effects.foldl applyEffect s with
            caseState := caseState
            resultPc := .callback msg rest
            log := { s.log with effects := s.log.effects ++ effects } }
      | none => s.fail .unknownStream
  | [] =>
      if cfg.syncBufferMode ≠ .external then
        { s with resultPc := .giveBack msg msg.streamBuffers }
      else { s with resultPc := .top }

/-- One round of the device's own return loop, or its end. -/
def giveBackStep (msg : CameraPostProcessMsg) (rest : List StreamBuffer) (s : Device) : Device :=
  match rest with
  | b :: rest =>
      match findStreamIndex s.camera3Streams b.stream with
      | some i => { s.returnBuffer i b.buffer with resultPc := .giveBack msg rest }
      | none => s.fail .unknownStream
  | [] => { s with resultPc := .top }

/-- A step of the result thread. -/
def result (s : Device) : ResultAct → Option Device
  | .take =>
      if s.resultPc ≠ .top ∨ s.holder.isSome then none
      else
        (BlockingQueue.step (.take 0) s.resultThread.messageQueue).map fun q =>
          s.afterPop s.resultThread.messageQueue.items q
  | .wake w =>
      if s.resultPc ≠ .top ∨ s.holder.isSome then none
      else
        (BlockingQueue.step (.wake 0 w) s.resultThread.messageQueue).map fun q =>
          if w = .timeout then s.afterPop [] q
          else if s.resultThread.messageQueue.items = [] then
            (s.afterPop [] q).fail .emptyResultQueue
          else s.afterPop s.resultThread.messageQueue.items q
  | .callback => match s.resultPc with
    | .callback msg rest => some (s.callbackStep cfg msg rest)
    | _ => none
  | .giveBack => match s.resultPc with
    | .giveBack msg rest => some (s.giveBackStep msg rest)
    | _ => none

/-- `QCamxTestVideoEncoder::Read` returns a buffer of the encoder's queue. -/
def encoderReturn (t : ℕ × Buffer) (s : Device) : Option Device :=
  if t ∈ s.encoder then some { s.returnBuffer t.1 t.2 with encoder := s.encoder.erase t } else none

/-! ## Stop -/

/-- The stop flag that a callback reads; `QCamxVideoOnlyCase::stop` does not set its own. -/
def setStop (tc : TestCase) (cs : CaseState) : CaseState :=
  match tc with
  | .previewVideo | .hal3TestVideo => { cs with stop := true }
  | _ => cs

/-- A step of the thread that runs `stop`. -/
def stop (s : Device) : StopAct → Option Device
  | .begin =>
      if s.stopPc = .running then
        some { s with caseState := setStop cfg.testCase s.caseState, stopPc := .postRequest }
      else none
  | .postRequest =>
      if s.stopPc = .postRequest then
        some { s with
          requestThread := { s.requestThread with
            messageQueue := s.requestThread.messageQueue ++ [⟨.startStop, 0, fun _ => 0, 1⟩] }
          stopPc := .joinRequest }
      else none
  | .joinRequest => match s.stopPc, s.requestPc with
    | .joinRequest, .exited => some { s with stopPc := .postResult }
    | _, _ => none
  | .postResult =>
      if s.stopPc ≠ .postResult ∨ s.holder.isSome then none
      else
        some { s.pushResult ⟨⟨0, [], 0⟩, [], true⟩ with
          resultThread :=
            { (s.pushResult ⟨⟨0, [], 0⟩, [], true⟩).resultThread with stopped := true }
          stopPc := .joinResult }
  | .joinResult =>
      if s.stopPc = .joinResult ∧ s.resultPc = .exited then some { s with stopPc := .drain 5 }
      else none
  | .drain => match s.stopPc with
    | .drain tryCount =>
        if s.pendingVector.isEmpty then some { s with stopPc := .delete }
        else if 0 < tryCount then
          some { s with stopPc := .waitPending tryCount, drainSignalled := false }
        else some { s with pendingVector := s.pendingVector.clear, stopPc := .delete }
    | _ => none
  | .wake w => match s.stopPc with
    | .waitPending tryCount =>
        match w with
        | .timeout => some { s with stopPc := .drain (tryCount - 1) }
        | .signal => if s.drainSignalled then some { s with stopPc := .drain tryCount } else none
        | .spurious => some { s with stopPc := .drain tryCount }
    | _ => none
  | .delete =>
      if s.stopPc = .delete then
        some { s with
          resultThreadNull := true
          currentMetadata := s.currentMetadata.clear
          camera3Streams := []
          stopPc := .stopped }
      else none

/-! ## Commands -/

/-- The post of a message to the request thread. -/
def postRequest (msg : CameraRequestMsg) (s : Device) : Device :=
  { s with
    requestThread :=
      { s.requestThread with messageQueue := s.requestThread.messageQueue ++ [msg] } }

/-- A command. -/
def user (s : Device) (a : UserAct) : Option Device :=
  if s.stopPc ≠ .running then none
  else match a with
    | .requestCapture count =>
        let s' := if cfg.testCase = .previewSnapshot then
            { s with caseState := { s.caseState with snapshotNum := count } }
          else s
        match requestCapture cfg.testCase cfg.config count with
        | some msg => some (s'.postRequest msg)
        | none => some s'
    | .triggerDump count interval =>
        some { s with caseState := triggerDump count interval s.caseState }
    | .setCurrentMeta metadata =>
        let current := s.currentMetadata.assign metadata
        some { s with
          currentMetadata := current
          settingMetadataList := s.settingMetadataList ++ [current.copy] }
    | .editCurrentMeta tag data =>
        some { s with currentMetadata := s.currentMetadata.update tag data }
    | .updateMetadata metadata =>
        some { s with settingMetadataList := s.settingMetadataList ++ [metadata.copy] }

/-- A step of the device. -/
def step (a : Act) (s : Device) : Option Device :=
  if s.fault.isSome then none
  else match a with
    | .request a => s.request cfg a
    | .hal a => s.hal a
    | .result a => s.result cfg a
    | .encoderReturn t => s.encoderReturn t
    | .stop a => s.stop cfg a
    | .user a => s.user cfg a

end Device

end QCamx
