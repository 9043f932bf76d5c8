import QCamx.Define
import QCamx.Lib.BlockingQueue
import QCamx.Lib.Guarded

/-!
# The video encoder

`QCamxTestVideoEncoder` and `QCamxHAL3TestOMXEncoder` as a test case uses them, in a build with
`ENABLE_VIDEO_ENCODER` and `DISABLE_META_MODE=1`. The threads are the in-flight thread
(`inFilghtFunc` with `Read`), the OMX component with its callback `onBufEmptyDone`, the result
thread in `capture_post_process`, and the console thread, which runs `start` and later the `stop` of
the case. A critical section is one step.

* `Encoder.inFlight`: the in-flight thread;
* `Encoder.result`: the test of `_stop`, then `EnqueueFrameBuffer`;
* `Encoder.stopStep`: `stop` of the preview-video case, which stops the encoder first, and of the
  video-only case, which does not stop it.
-/

namespace QCamx

/-! ## State -/

/-- An element of `m_inbufs`, the address of an `OMX_BUFFERHEADERTYPE`. -/
abbrev Header := ℕ

/-- `OmxMsgQ` in `m_infightQ`. -/
inductive OmxMsgQ
  | read (buffer : Header)
  | loopExit
  deriving DecidableEq, Repr

/-- The program counter of the in-flight thread. -/
inductive InFlightPc
  | top
  | read (h : Header)
  | waitFrame (h : Header)
  | copy (h : Header) (b : Buffer)
  | submit (h : Header)
  | exited
  deriving DecidableEq, Repr

/-- The result thread; `enqueue` lies between the test of `_stop` and the push. -/
inductive VideoResultPc
  | idle
  | enqueue (b : Buffer)
  | exited
  deriving DecidableEq, Repr

/-- The console thread from the end of `start` on. -/
inductive VideoStopPc
  | running | flush | postExit | joinInFlight | drain
  | giveBack (b : Buffer)
  | joinResult | delete | stopped
  deriving DecidableEq, Repr

inductive EncoderFault
  | deletedQueue | deletedManager
  deriving DecidableEq, Repr

structure Encoder where
  /-- The headers whose `READ` message `start` has posted. -/
  started : ℕ := 0
  infightQ : List OmxMsgQ := []
  inFlightPc : InFlightPc := .top
  /-- The headers the OMX component has accepted and not returned. -/
  component : List Header := []
  /-- `mBufferQueue`, with `none` for `NULL`. -/
  bufferQueue : Option (List Buffer) := some []
  /-- A signal has reached the wait of `Read`. -/
  frameSignalled : Bool := false
  /-- `_stop` of the case. -/
  stop : Bool := false
  resultPc : VideoResultPc := .idle
  stopPc : VideoStopPc := .running
  managerDeleted : Bool := false
  /-- The buffers passed to `EnqueueFrameBuffer`. -/
  enqueued : List Buffer := []
  /-- The buffers that `Read` and the drain of `stop` have returned to the manager. -/
  returned : List Buffer := []
  /-- The waits of `Read` that ended by a time-out. -/
  timeouts : ℕ := 0
  /-- The errors of `OMX_EmptyThisBuffer`. -/
  rejected : ℕ := 0
  fault : Option EncoderFault := none
  deriving DecidableEq, Repr

/-- The two cases that hand frames to the encoder, and the input port. -/
structure EncoderSetup where
  /-- `QCamxVideoOnlyCase`, otherwise `QCamxPreviewVideoCase`. -/
  videoOnly : Bool
  /-- `m_inbufs`, of `m_nInputBufferCount` elements. -/
  inbufs : List Header
  /-- The headers whose `pBuffer` is `NULL`. -/
  nullBuffer : Header → Bool := fun _ => false
  nodup_inbufs : inbufs.Nodup

/-! ## Actions -/

inductive InFlightAct
  | take | read
  | wake (w : Wake)
  | copy
  | submit (accepted : Bool)
  deriving DecidableEq

inductive VideoResultAct
  | deliver (b : Buffer)
  | push | exit
  deriving DecidableEq

inductive VideoStopAct
  | begin | flush | postExit | joinInFlight | drain | giveBack | joinResult | delete
  deriving DecidableEq

inductive EncoderAct
  | start
  | inFlight (a : InFlightAct)
  | emptyDone (h : Header)
  | result (a : VideoResultAct)
  | stop (a : VideoStopAct)
  deriving DecidableEq

namespace Encoder

variable (cfg : EncoderSetup)

/-! ## Steps -/

def fail (f : EncoderFault) (s : Encoder) : Encoder := { s with fault := some f }

/-- `start`: the `READ` message of the next header. -/
def start (s : Encoder) : Option Encoder :=
  (cfg.inbufs[s.started]?).map fun h =>
    { s with started := s.started + 1, infightQ := s.infightQ ++ [.read h] }

/-- The loop of `Read` on the size of `mBufferQueue`, and the pop. -/
def popFrame (h : Header) (s : Encoder) : Encoder :=
  match s.bufferQueue with
  | none => s.fail .deletedQueue
  | some [] => { s with inFlightPc := .waitFrame h, frameSignalled := false }
  | some (b :: q) => { s with bufferQueue := some q, inFlightPc := .copy h b }

/-- A step of the in-flight thread. Where `Read` fails, the header of the message is dropped. -/
def inFlight (s : Encoder) : InFlightAct → Option Encoder
  | .take => match s.inFlightPc, s.infightQ with
    | .top, .read h :: q => some { s with infightQ := q, inFlightPc := .read h }
    | .top, .loopExit :: q => some { s with infightQ := q, inFlightPc := .exited }
    | _, _ => none
  | .read => match s.inFlightPc with
    | .read h =>
        if cfg.nullBuffer h then some { s with inFlightPc := .submit h }
        else if s.bufferQueue = none then some { s with inFlightPc := .top }
        else some (s.popFrame h)
    | _ => none
  | .wake w => match s.inFlightPc with
    | .waitFrame h =>
        match w with
        | .timeout => some { s with inFlightPc := .top, timeouts := s.timeouts + 1 }
        | .signal => if s.frameSignalled then some (s.popFrame h) else none
        | .spurious => some (s.popFrame h)
    | _ => none
  | .copy => match s.inFlightPc with
    | .copy h b =>
        if s.managerDeleted then some (s.fail .deletedManager)
        else some { s with inFlightPc := .submit h, returned := s.returned ++ [b] }
    | _ => none
  | .submit accepted => match s.inFlightPc with
    | .submit h =>
        if accepted then some { s with inFlightPc := .top, component := h :: s.component }
        else some { s with inFlightPc := .top, rejected := s.rejected + 1 }
    | _ => none

/-- `mCoder` exists; `stop` of the encoder deletes it after the in-flight thread has returned. -/
def hasCoder (s : Encoder) : Bool :=
  match s.stopPc with
  | .running | .flush | .postExit | .joinInFlight => true
  | _ => cfg.videoOnly

/-- `onBufEmptyDone`: the component gives a header back. -/
def emptyDone (h : Header) (s : Encoder) : Option Encoder :=
  if s.hasCoder cfg ∧ h ∈ s.component then
    some { s with component := s.component.erase h, infightQ := s.infightQ ++ [.read h] }
  else none

/-- A step of the result thread, which `run` starts after the encoder. -/
def result (s : Encoder) : VideoResultAct → Option Encoder
  | .deliver b =>
      if s.started = cfg.inbufs.length ∧ s.resultPc = .idle then
        if s.stop then some s else some { s with resultPc := .enqueue b }
      else none
  | .push => match s.resultPc with
    | .enqueue b =>
        match s.bufferQueue with
        | none => some (s.fail .deletedQueue)
        | some q =>
            some { s with
              bufferQueue := some (q ++ [b])
              frameSignalled := match s.inFlightPc with
                | .waitFrame _ => true
                | _ => s.frameSignalled
              resultPc := .idle
              enqueued := s.enqueued ++ [b] }
    | _ => none
  | .exit =>
      if s.stopPc = .joinResult ∧ s.resultPc = .idle then some { s with resultPc := .exited }
      else none

/-- A step of `stop` and the `stop_streams` in it. -/
def stopStep (s : Encoder) : VideoStopAct → Option Encoder
  | .begin =>
      if s.stopPc = .running ∧ s.started = cfg.inbufs.length then
        if cfg.videoOnly then some { s with stopPc := .joinResult }
        else some { s with stop := true, stopPc := .flush }
      else none
  | .flush =>
      if s.stopPc = .flush then some { s with infightQ := [], stopPc := .postExit } else none
  | .postExit =>
      if s.stopPc = .postExit then
        some { s with infightQ := s.infightQ ++ [.loopExit], stopPc := .joinInFlight }
      else none
  | .joinInFlight =>
      if s.stopPc = .joinInFlight ∧ s.inFlightPc = .exited then some { s with stopPc := .drain }
      else none
  | .drain => match s.stopPc, s.bufferQueue with
    | .drain, some (b :: q) => some { s with bufferQueue := some q, stopPc := .giveBack b }
    | .drain, some [] => some { s with bufferQueue := none, stopPc := .joinResult }
    | _, _ => none
  | .giveBack => match s.stopPc with
    | .giveBack b => some { s with returned := s.returned ++ [b], stopPc := .drain }
    | _ => none
  | .joinResult =>
      if s.stopPc = .joinResult ∧ s.resultPc = .exited then some { s with stopPc := .delete }
      else none
  | .delete =>
      if s.stopPc = .delete then some { s with managerDeleted := true, stopPc := .stopped }
      else none

/-- A step of the encoder, none after a fault. -/
def step (a : EncoderAct) (s : Encoder) : Option Encoder :=
  if s.fault.isSome then none
  else match a with
    | .start => s.start cfg
    | .inFlight a => s.inFlight cfg a
    | .emptyDone h => s.emptyDone cfg h
    | .result a => s.result cfg a
    | .stop a => s.stopStep cfg a

end Encoder

end QCamx
