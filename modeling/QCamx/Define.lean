import Mathlib

/-!
# Types shared by the whole program

The enumerations of `qcamx_define.h`, the constants of `qcamx_device.h`, and the records that
travel between the threads.

A `camera3_stream_t *` and a `buffer_handle_t *` are opaque addresses, so natural numbers. Of a
`camera3_stream_buffer_t` and a `camera3_capture_result` only the fields the program reads are kept.
-/

namespace QCamx

/-! ## Enumerations -/

/-- `Implsubformat`. -/
inductive Implsubformat
  | none | yuv420NV12 | ubwcTP10 | ubwcNV12Flex | ubwcNV12 | p010 | yuv420NV21 | rawMIPI
  deriving DecidableEq, Repr

/-- `StreamType`. -/
inductive StreamType
  | preview | snapshot | video | rawSnapshot | depth | irbg
  deriving DecidableEq, Repr

/-- `VideoMode`. -/
inductive VideoMode
  | normal | hfr60 | hfr90 | hfr120 | hfr240 | hfr480
  deriving DecidableEq, Repr

/-- The frame rate an enumerator of `VideoMode` stands for. -/
def VideoMode.value : VideoMode → ℕ
  | normal => 30
  | hfr60 => 60
  | hfr90 => 90
  | hfr120 => 120
  | hfr240 => 240
  | hfr480 => 480

/-- `SyncBufferMode`: who returns the buffers of a processed result. -/
inductive SyncBufferMode
  | internal | external
  deriving DecidableEq, Repr

/-- `camera3_request_template_t`. -/
inductive Template
  | preview | stillCapture | videoRecord | videoSnapshot | zeroShutterLag | manual
  deriving DecidableEq, Repr

/-! ## Constants -/

/-- `REQUEST_NUMBER_UMLIMIT`. -/
def requestNumberUmlimit : ℤ := -1

/-- `MAXSTREAM`. -/
def maxStream : ℕ := 4

/-- `CAMX_LIVING_REQUEST_MAX`. -/
def camxLivingRequestMax : ℕ := 5

/-- `LIVING_REQUEST_APPEND`. -/
def livingRequestAppend : ℕ := 7

/-- `HFR_LIVING_REQUEST_APPEND`. -/
def hfrLivingRequestAppend : ℕ := 35

/-- `HAL_PIXEL_FORMAT_BLOB`. -/
def halPixelFormatBlob : ℤ := 0x21

/-! ## Buffers, results and messages -/

/-- The address of a `camera3_stream_t`. -/
abbrev StreamPtr := ℕ

/-- The address of a `buffer_handle_t`. -/
abbrev Buffer := ℕ

/-- `camera3_stream_buffer_t`. -/
structure StreamBuffer where
  stream : StreamPtr
  buffer : Buffer
  deriving DecidableEq, Repr

/-- `camera3_capture_result`: the array `output_buffers` has `num_output_buffers` elements. -/
structure CaptureResult where
  frameNumber : ℕ
  outputBuffers : List StreamBuffer
  partialResult : UInt32
  deriving DecidableEq, Repr

/-- `CameraPostProcessMsg`, a message for the result thread. -/
structure CameraPostProcessMsg where
  result : CaptureResult
  streamBuffers : List StreamBuffer
  stop : Bool
  deriving DecidableEq, Repr

/-- `MsgType`. -/
inductive MsgType
  | startStop | requestChange
  deriving DecidableEq, Repr

/-- `CameraRequestMsg`, a message for the request thread. -/
structure CameraRequestMsg where
  messageType : MsgType
  mask : ℕ
  requestNumber : ℕ → ℤ
  stop : ℤ

/-- `CameraThreadData`; `Queue` is its `message_queue`. -/
structure CameraThreadData (Queue : Type) where
  messageQueue : Queue
  requestNumber : ℕ → ℤ := fun _ => 0
  skipPattern : ℕ → ℕ := fun _ => 1
  frameNumber : ℕ := 0
  stopped : Bool := false

/-! ## Machine integers -/

/-- A value that fits a signed 32-bit `int`. -/
def FitsInt (z : ℤ) : Prop := -2 ^ 31 ≤ z ∧ z < 2 ^ 31

instance (z : ℤ) : Decidable (FitsInt z) := by unfold FitsInt; infer_instance

theorem toInt_toInt32 (x : UInt32) :
    x.toInt32.toInt = if x.toNat < 2 ^ 31 then (x.toNat : ℤ) else (x.toNat : ℤ) - 2 ^ 32 := by
  have h := BitVec.toInt_eq_toNat_cond x.toBitVec
  have hdef : x.toInt32.toInt = x.toBitVec.toInt := rfl
  have hnat : x.toBitVec.toNat = x.toNat := rfl
  rw [hdef, h, hnat]
  by_cases hlt : x.toNat < 2 ^ 31
  · rw [if_pos hlt, if_pos (by omega)]
  · rw [if_neg hlt, if_neg (by omega)]
    norm_num

theorem toInt_of_lt {x : UInt32} (h : x.toNat < 2 ^ 31) : x.toInt32.toInt = x.toNat := by
  rw [toInt_toInt32, if_pos h]

theorem toInt_of_ge {x : UInt32} (h : 2 ^ 31 ≤ x.toNat) : x.toInt32.toInt < 0 := by
  have hlt := x.toNat_lt
  rw [toInt_toInt32, if_neg (by omega)]
  omega

theorem toNat_toUInt32 (n : Int32) :
    (n.toUInt32.toNat : ℤ) = if 0 ≤ n.toInt then n.toInt else n.toInt + 2 ^ 32 := by
  have h := toInt_toInt32 n.toUInt32
  have hlt := n.toUInt32.toNat_lt
  rw [Int32.toInt32_toUInt32] at h
  split_ifs at h ⊢ <;> omega

theorem toNat_toUInt32_ofInt {z : ℤ} (h₀ : 0 ≤ z) (h : z < 2 ^ 32) :
    ((Int32.ofInt z).toUInt32.toNat : ℤ) = z := by
  have hmod : z % ((2 ^ 32 : ℕ) : ℤ) = z := Int.emod_eq_of_lt h₀ h
  have hz : (Int32.ofInt z).toInt = z.bmod (2 ^ 32) := Int32.toInt_ofInt
  rw [Int.bmod_def, hmod] at hz
  rw [toNat_toUInt32, hz]
  split_ifs <;> omega

end QCamx
