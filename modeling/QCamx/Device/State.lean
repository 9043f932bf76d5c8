import QCamx.BufferManager
import QCamx.CameraMetadata
import QCamx.Lib.KeyedVector
import QCamx.PostProcess

/-!
# The state of a running `QCamxDevice`

The threads of a device are the request thread, the result thread, the thread that calls
`stop_streams`, and those in which the HAL calls `ProcessCaptureResult`. Each has a program counter;
a critical section is one step. The mutex of the result queue is the exception: a HAL thread takes
it, pushes and releases it in three steps, because each of them dereferences `_result_thread`.

Undefined behaviour of the program is a `Fault`; a device with a fault makes no more steps.
-/

namespace QCamx

/-! ## Records of the device -/

/-- `camera3_capture_request_t`. -/
structure CaptureRequest where
  frameNumber : ℕ
  settings : Option Metadata
  numOutputBuffers : UInt32
  deriving DecidableEq, Repr

/-- `RequestPending`. -/
structure RequestPending where
  request : CaptureRequest
  numOutputBuffer : UInt32 := 0
  numMetadata : Int32 := 0
  deriving DecidableEq

/-- A record after a result was counted on it. -/
def countResult (r : CaptureResult) (pend : RequestPending) : RequestPending :=
  { pend with
    numOutputBuffer := pend.numOutputBuffer + UInt32.ofNat r.outputBuffers.length
    numMetadata := pend.numMetadata + r.partialResult.toInt32 }

/-- The test that removes a record. -/
def Complete (pend : RequestPending) : Prop :=
  pend.request.numOutputBuffers ≤ pend.numOutputBuffer ∧ pend.numMetadata ≠ 0

instance (pend : RequestPending) : Decidable (Complete pend) := by
  unfold Complete; infer_instance

inductive Fault
  | emptyFreeList | emptyResultQueue | useAfterFree | nullResultThread | signedOverflow
  | unknownStream
  deriving DecidableEq, Repr

/-! ## Program counters -/

/-- The request thread; `selected` is `request_number_of_each_stream`. -/
inductive RequestPc
  | loop
  | waitMessage
  | limit (selected : ℕ → ℕ)
  | waitLimit (selected : ℕ → ℕ)
  | assemble (selected : ℕ → ℕ) (i : ℕ) (buffers : List StreamBuffer)
  | settings (selected : ℕ → ℕ) (buffers : List StreamBuffer)
  | insert (selected : ℕ → ℕ) (buffers : List StreamBuffer) (settings : Option Metadata)
  | submit (selected : ℕ → ℕ) (buffers : List StreamBuffer)
  | inCall (selected : ℕ → ℕ) (buffers : List StreamBuffer) (accepted : Bool)
  | unlock (selected : ℕ → ℕ) (frame : ℕ)
  | reject (rest : List StreamBuffer)
  | decrement (selected : ℕ → ℕ)
  | exited

/-- The result thread; at `top` it may also be in the wait. -/
inductive ResultPc
  | top
  | callback (msg : CameraPostProcessMsg) (rest : List StreamBuffer)
  | giveBack (msg : CameraPostProcessMsg) (rest : List StreamBuffer)
  | exited
  deriving DecidableEq

/-- The thread that calls `stop`. -/
inductive StopPc
  | running | postRequest | joinRequest | postResult | joinResult
  | drain (tryCount : ℕ)
  | waitPending (tryCount : ℕ)
  | delete | stopped
  deriving DecidableEq

/-! ## Histories -/

/-- A call of `process_capture_request`, and the `request_number` array at that iteration. -/
structure Submission where
  frameNumber : ℕ
  buffers : List StreamBuffer
  accepted : Bool
  requestNumber : ℕ → ℤ

/-- What has happened so far; no function of the program reads it. -/
structure Log where
  /-- The `REQUEST_CHANGE` messages the request thread has handled. -/
  consumed : List CameraRequestMsg := []
  submitted : List Submission := []
  /-- The results with buffers that reached the result queue's mutex, with the `stopped` read. -/
  arrivals : List (CaptureResult × Bool) := []
  /-- The results that went through the critical section of `_pending_lock`. -/
  counted : List CaptureResult := []
  /-- The signals of `_pending_cond`. -/
  signals : ℕ := 0
  /-- The results passed to `capture_post_process`. -/
  delivered : List CaptureResult := []
  effects : List Effect := []

/-! ## The device -/

structure Device where
  camera3Streams : List StreamPtr
  managers : ℕ → BufferManager
  pendingVector : KeyedVector ℕ RequestPending := .empty
  /-- The frames whose record `ProcessCaptureResult` has deleted. -/
  freed : List ℕ := []
  setting : CameraMetadata := {}
  settingMetadataList : List CameraMetadata := []
  currentMetadata : CameraMetadata := {}
  requestThread : CameraThreadData (List CameraRequestMsg)
  requestPc : RequestPc := .loop
  /-- A signal has reached the limit wait. -/
  limitSignalled : Bool := false
  resultThread : CameraThreadData (BlockingQueue CameraPostProcessMsg) :=
    { messageQueue := { items := [] } }
  /-- `_result_thread` is `NULL` and its data deleted. -/
  resultThreadNull : Bool := false
  resultPc : ResultPc := .top
  caseState : CaseState := {}
  /-- The buffers the HAL holds, with the frame they were submitted for. -/
  inFlight : List (ℕ × StreamBuffer) := []
  /-- Calls of `ProcessCaptureResult` before the result queue's mutex. -/
  entering : List CaptureResult := []
  /-- The call that holds the mutex, and whether it has pushed. -/
  holder : Option (CaptureResult × Bool) := none
  /-- Calls before the critical section of `_pending_lock`. -/
  counting : List CaptureResult := []
  /-- The buffers the encoder's queue owns. -/
  encoder : List (ℕ × Buffer) := []
  stopPc : StopPc := .running
  /-- A signal has reached the wait of `stop_streams`. -/
  drainSignalled : Bool := false
  log : Log := {}
  fault : Option Fault := none

/-- A case that `run` has started: `camera3Streams` is empty where its init function failed. -/
structure Setup where
  testCase : TestCase
  config : QCamxConfig
  callbacks : Option Callbacks := none
  camera3Streams : List StreamPtr
  allocated : ℕ → List Buffer
  settingMetadataList : List CameraMetadata := []
  currentMetadata : CameraMetadata := {}
  nodup_streams : camera3Streams.Nodup
  length_streams : camera3Streams = [] ∨
    camera3Streams.length = (initStreams testCase config).cameraStreams.length
  nodup_allocated : ∀ i, (allocated i).Nodup

namespace Setup

variable (cfg : Setup)

def cameraStreams : List CameraStream := (initStreams cfg.testCase cfg.config).cameraStreams

def syncBufferMode : SyncBufferMode := (initStreams cfg.testCase cfg.config).syncBufferMode

/-- `CAMX_LIVING_REQUEST_MAX + _living_request_ext_append`. -/
def maxPendingSize : ℕ :=
  camxLivingRequestMax + livingRequestExtAppend cfg.testCase cfg.config

/-- The device after `process_capture_request_on`. -/
def init : Device where
  camera3Streams := cfg.camera3Streams
  managers i := .allocateBuffers (cfg.allocated i)
  settingMetadataList := cfg.settingMetadataList
  currentMetadata := cfg.currentMetadata
  requestThread := runRequestThread cfg.testCase cfg.config
  caseState := { callbacks := cfg.callbacks }

theorem length_camera3Streams_le : cfg.camera3Streams.length ≤ cfg.cameraStreams.length := by
  rcases cfg.length_streams with hnil | hlen
  · rw [hnil]
    exact Nat.zero_le _
  · exact hlen.le

end Setup

namespace Device

variable (s : Device)

/-- The free list of a stream's manager. -/
def buffersFree (i : ℕ) : List Buffer := (s.managers i).buffersFree.items

/-- The request of a frame, where the HAL has accepted it. -/
def acceptedRequest (n : ℕ) : Option Submission :=
  s.log.submitted.find? fun x => x.accepted && x.frameNumber == n

def fail (f : Fault) : Device := { s with fault := some f }

/-- `return_buffer` on the manager of a stream. -/
def returnBuffer (i : ℕ) (b : Buffer) : Device :=
  { s with managers := Function.update s.managers i ((s.managers i).returnBuffer b) }

/-- `pthread_cond_signal(&_pending_cond)`: it reaches whoever is in the wait. -/
def signalPending : Device :=
  { s with
    limitSignalled := match s.requestPc with | .waitLimit _ => true | _ => s.limitSignalled
    drainSignalled := match s.stopPc with | .waitPending _ => true | _ => s.drainSignalled
    log := { s.log with signals := s.log.signals + 1 } }

end Device

end QCamx
