import QCamx.Device.Places
import QCamx.Encoder.Frames

/-!
# A video case

The preview-video and the video-only case put a device and an encoder together. They share two
threads, the result thread and the one that runs `stop`, and the buffers of the video stream: the
callback of the device hands them to the encoder, and `Read` or the drain of `stop` return them to
the manager of the device. `run` starts the encoder before the device.

* `VideoSetup`, `Video`: both parts, and the memory that the buffers of the video stream point to;
* `Video.encoderAct`: what the encoder's side of a shared thread does in a step of the device;
* `Video.step`: a step of the device, of the encoder, or a write of the HAL to a buffer it holds.
-/

namespace QCamx

open Guarded

/-! ## State -/

/-- One of the two cases, in a build with the encoder. -/
structure VideoSetup where
  device : Setup
  encoder : EncoderSetup
  config : Config
  /-- `nAllocLen` of the input headers. -/
  nAllocLen : ℕ
  testCase : device.testCase = if encoder.videoOnly then .videoOnly else .previewVideo
  enableVideoEncoder : device.config.enableVideoEncoder = true

namespace VideoSetup

variable (cfg : VideoSetup)

/-- `VIDEO_INDEX`. -/
def videoIndex : ℕ := if cfg.encoder.videoOnly then 0 else 1

/-- A buffer of the video stream. -/
def IsVideo (b : StreamBuffer) : Prop :=
  cfg.device.camera3Streams[cfg.videoIndex]? = some b.stream

instance : DecidablePred cfg.IsVideo := fun _ => by unfold IsVideo; infer_instance

/-- The buffers of the video stream in a result. -/
def videoBuffers (bs : List StreamBuffer) : List Buffer :=
  (bs.filter fun b => cfg.IsVideo b).map (·.buffer)

/-- The bytes that `Read` copies. -/
def frameBytes (memory : Buffer → ℕ → UInt8) (b : Buffer) : List UInt8 :=
  (List.range cfg.nAllocLen).map (memory b)

end VideoSetup

structure Video where
  device : Device
  encoder : Encoder := {}
  frames : Encoder.Frames (List UInt8) := {}
  /-- The bytes from `vaddr` on of the buffers of the video stream. -/
  memory : Buffer → ℕ → UInt8
  /-- What a buffer held when the HAL last returned it. -/
  captured : Buffer → ℕ → UInt8
  /-- The frames in the results that the result thread got, in the order of the queue. -/
  arrived : List (List UInt8) := []

inductive VideoAct
  | device (a : Act)
  | encoder (a : EncoderAct)
  /-- The HAL writes to a buffer of a frame it has accepted. -/
  | write (frame : ℕ) (b : StreamBuffer) (offset : ℕ) (byte : UInt8)
  deriving DecidableEq

/-- The frame that the result thread has in `EnqueueFrameBuffer`. -/
def VideoResultPc.frame : VideoResultPc → Option Buffer
  | enqueue b => some b
  | idle | exited => none

namespace Video

variable (cfg : VideoSetup)

/-- The case before `run` has started the encoder. -/
def init (memory : Buffer → ℕ → UInt8) : Video where
  device := cfg.device.init
  memory := memory
  captured := memory

/-! ## Shared threads -/

/-- The thread of a device action is not in the code of the encoder. Buffers come back from the
encoder by its own actions. -/
def inDevice (v : Video) : Act → Bool
  | .result _ => v.encoder.resultPc = .idle
  | .stop .postRequest => v.encoder.stopPc = .joinResult
  | .encoderReturn _ => false
  | .request _ | .hal _ | .stop _ | .user _ => true

/-- What the thread of a device action that leads to `d` does on the encoder's side. -/
def encoderAct (v : Video) (d : Device) : Act → Option EncoderAct
  | .result .callback => match v.device.resultPc with
    | .callback _ (b :: _) => if cfg.IsVideo b then some (.result (.deliver b.buffer)) else none
    | _ => none
  | .result _ => if d.resultPc = .exited then some (.result .exit) else none
  | .stop .begin => some (.stop .begin)
  | .stop .joinResult => some (.stop .joinResult)
  | .stop .delete => some (.stop .delete)
  | .request _ | .hal _ | .encoderReturn _ | .stop _ | .user _ => none

/-- The actions of the encoder that are no part of an action of the device. -/
def ownAct : EncoderAct → Bool
  | .result .push => true
  | .result _ => false
  | .stop .begin | .stop .joinResult | .stop .delete => false
  | .start | .inFlight _ | .emptyDone _ | .stop _ => true

/-- The buffer that an action of the encoder from `s` to `s'` returns to its manager. -/
def returnsBuffer (s s' : Encoder) : EncoderAct → Option Buffer
  | .inFlight .copy => if s'.fault.isSome then none else s.inFlightPc.frame
  | .stop .giveBack => s.stopPc.frame
  | .start | .inFlight _ | .emptyDone _ | .result _ | .stop _ => none

/-! ## Steps -/

/-- The encoder makes a step to `s`. -/
def encoderTo (a : EncoderAct) (s : Encoder) (v : Video) : Video :=
  { v with
    encoder := s
    frames := Encoder.recordFrames cfg.config.timeOffsetInc (a, cfg.frameBytes v.memory) v.encoder s
      v.frames }

/-- The device makes a step to `d`. -/
def deviceTo (a : Act) (d : Device) (v : Video) : Video :=
  match a with
  | .hal (.call r) =>
      { v with
        device := d
        captured := fun b =>
          if b ∈ cfg.videoBuffers r.outputBuffers then v.memory b else v.captured b }
  | .hal (.push _) =>
      { v with
        device := d
        arrived := match v.device.holder with
          | some (r, _) =>
              if v.device.resultThread.stopped ∨ d.fault.isSome then v.arrived
              else v.arrived ++
                (cfg.videoBuffers r.outputBuffers).map (cfg.frameBytes v.captured)
          | none => v.arrived }
  | _ => { v with device := d }

/-- `return_buffer` by the encoder. -/
def returnFrame (b : Option Buffer) (d : Device) : Device :=
  match b with
  | some b =>
      { d.returnBuffer cfg.videoIndex b with encoder := d.encoder.erase (cfg.videoIndex, b) }
  | none => d

def step (a : VideoAct) (v : Video) : Option Video :=
  if v.device.fault.isSome ∨ v.encoder.fault.isSome then none
  else match a with
    | .device a =>
        if v.encoder.started = cfg.encoder.inbufs.length ∧ v.inDevice a then
          (v.device.step cfg.device a).bind fun d =>
            match v.encoderAct cfg d a with
            | none => some (v.deviceTo cfg a d)
            | some e => (v.encoder.step cfg.encoder e).map fun s =>
                (v.deviceTo cfg a d).encoderTo cfg e s
        else none
    | .encoder a =>
        if ownAct a then
          (v.encoder.step cfg.encoder a).map fun s =>
            { v.encoderTo cfg a s with
              device := returnFrame cfg (returnsBuffer v.encoder s a) v.device }
        else none
    | .write frame b offset byte =>
        if v.device.inFlight.contains (frame, b) then
          some { v with
            memory := if cfg.IsVideo b then
                Function.update v.memory b.buffer
                  (Function.update (v.memory b.buffer) offset byte)
              else v.memory }
        else none

/-- A guard on the device's actions. -/
def onDevice (ok : Act → Device → Prop) : VideoAct → Video → Prop
  | .device a, v => ok a v.device
  | .encoder _, _ | .write .., _ => True

instance (ok : Act → Device → Prop) [∀ a s, Decidable (ok a s)] :
    ∀ a v, Decidable (onDevice ok a v)
  | .device a, v => inferInstanceAs (Decidable (ok a v.device))
  | .encoder _, _ | .write .., _ => isTrue trivial

/-- `v` is reached from the beginning of `run` by steps the guard `ok` allows. -/
abbrev Run (ok : Act → Device → Prop) (memory : Buffer → ℕ → UInt8) (v : Video) : Prop :=
  Reachable (step cfg) (onDevice ok) (init cfg memory) v

/-! ## What a step can do -/

/-- The steps of a video case. -/
inductive Step (v : Video) : VideoAct → Video → Prop
  | device {a : Act} {d : Device} (hstarted : v.encoder.started = cfg.encoder.inbufs.length)
      (hin : v.inDevice a = true) (hd : v.device.step cfg.device a = some d)
      (hact : v.encoderAct cfg d a = none) : Step v (.device a) (v.deviceTo cfg a d)
  | both {a : Act} {d : Device} {e : EncoderAct} {s : Encoder}
      (hstarted : v.encoder.started = cfg.encoder.inbufs.length)
      (hin : v.inDevice a = true) (hd : v.device.step cfg.device a = some d)
      (hact : v.encoderAct cfg d a = some e) (hs : v.encoder.step cfg.encoder e = some s) :
      Step v (.device a) ((v.deviceTo cfg a d).encoderTo cfg e s)
  | encoder {a : EncoderAct} {s : Encoder} (hown : ownAct a = true)
      (hs : v.encoder.step cfg.encoder a = some s) :
      Step v (.encoder a)
        { v.encoderTo cfg a s with
          device := returnFrame cfg (returnsBuffer v.encoder s a) v.device }
  | write {frame : ℕ} {b : StreamBuffer} {offset : ℕ} {byte : UInt8}
      (hin : (frame, b) ∈ v.device.inFlight) :
      Step v (.write frame b offset byte)
        { v with
          memory := if cfg.IsVideo b then
              Function.update v.memory b.buffer (Function.update (v.memory b.buffer) offset byte)
            else v.memory }

variable {cfg} {v v' : Video}

/-- **A case that steps has no fault in either part.** -/
theorem Step.of_eq {a : VideoAct} (hs : step cfg a v = some v') :
    v.device.fault = none ∧ v.encoder.fault = none ∧ Step cfg v a v' := by
  unfold Video.step at hs
  split at hs
  case isTrue => cases hs
  case isFalse hfault =>
    simp only [not_or, Bool.not_eq_true, Option.isSome_eq_false_iff, Option.isNone_iff_eq_none]
      at hfault
    refine ⟨hfault.1, hfault.2, ?_⟩
    cases a with
    | device a =>
        simp only at hs
        split_ifs at hs with hin
        obtain ⟨d, hd, hs⟩ := Option.bind_eq_some_iff.mp hs
        cases hact : v.encoderAct cfg d a with
        | none =>
            rw [hact] at hs
            obtain rfl := Option.some.inj hs
            exact .device hin.1 hin.2 hd hact
        | some e =>
            rw [hact] at hs
            obtain ⟨s, he, rfl⟩ := Option.map_eq_some_iff.mp hs
            exact .both hin.1 hin.2 hd hact he
    | encoder a =>
        simp only at hs
        split_ifs at hs with hown
        obtain ⟨s, he, rfl⟩ := Option.map_eq_some_iff.mp hs
        exact .encoder hown he
    | write frame b offset byte =>
        simp only at hs
        split at hs
        case isTrue hin =>
          obtain rfl := Option.some.inj hs
          exact .write (List.contains_iff_mem.mp hin)
        case isFalse => cases hs

end Video

end QCamx
