import QCamx.Streams
import QCamx.Config.MetaDump
import QCamx.Device.Frame

/-!
# The console: slots, test cases and their devices

`main` runs the commands of the user in one thread. It registers every test case in the slot of
`s_HAL3_test` that its camera id names; the threads of the cases run beside it.

* `Start`: what the HAL and the allocator answer while a case is started;
* `Case`: a test case, its configuration and its device, and how often it was stopped and closed;
* `startCase`: construction, `pre_init_stream`, `open_camera` and `run`;
* `Console`: the slots, the cases so far, and where `main` is.

Undefined behaviour of `main` is a `Console.Fault`, after which nothing happens any more.
-/

namespace QCamx

open Streams

namespace Console

/-- Undefined behaviour of the thread of `main`. -/
inductive Fault
  /-- `s_HAL3_test` at an index outside of the array. -/
  | outOfBounds
  /-- A member of the `NULL` of an empty slot. -/
  | nullCase
  /-- A case that has been deleted. -/
  | deletedCase
  /-- The deleted request thread of a case that has been stopped. -/
  | stoppedCase
  /-- `_camera3_device`, which only a successful `open` sets. -/
  | unopenedDevice
  /-- A sensor mode table that is absent or too short. -/
  | sensorModeTable
  | parse (f : ParseFault)
  | metaParse (f : MetaFault)
  deriving DecidableEq, Repr

/-! ## Test cases -/

/-- What the HAL and the allocator answer while a case is started. -/
structure Start where
  /-- `open` of the camera module returns `0`. -/
  opens : Bool := true
  /-- Calls through a `_camera3_device` that `open` has not set return. -/
  wild : Bool := false
  characteristics : Characteristics
  /-- `configure_streams` returns `0`, if it is called. -/
  configures : Bool := true
  /-- The addresses of the new streams. -/
  stream : ℕ → StreamPtr := id
  allocated : ℕ → List Buffer
  /-- The settings that the init function leaves, if it gets there. -/
  settingMetadataList : List CameraMetadata := []
  currentMetadata : CameraMetadata := {}
  stream_injective : Function.Injective stream
  nodup_allocated : ∀ i, (allocated i).Nodup

/-- A test case and what has happened to it. -/
structure Case where
  setup : Setup
  /-- `_config` as the commands have left it. The threads read it as it was at the start; only `v`
  changes what they read, and it stops them next. -/
  config : Config
  /-- `_camera_id` of the case and of its device. -/
  cameraId : Int32
  /-- `_meta_dump` and `_dump_log` of the configuration. -/
  metaDump : DumpState := {}
  /-- What `open_camera` returned. -/
  opened : Bool
  /-- Calls through a `_camera3_device` that `open` has not set return. -/
  wild : Bool
  /-- Whether `configure_streams` returned `0`; `none` if a stream check failed before it. -/
  configured : Option Bool
  device : Device
  /-- The calls of `stop`. -/
  stops : ℕ := 0
  /-- The calls of `close_camera`. -/
  closes : ℕ := 0
  deleted : Bool := false

section Start

variable (enc : Bool) (tc : TestCase) (c : Config) (start : Start)

/-- `_camera3_streams` after the init function: `config_streams` fills it before it calls the HAL,
and leaves it as it is when the HAL fails. -/
def Start.camera3Streams : List StreamPtr :=
  match initStreamsOf start.characteristics c tc with
  | .ok call => (List.range call.streams.length).map start.stream
  | .error _ => []

/-- Whether the init function gets to the calls after `config_streams`. -/
def Start.getsOn : Bool := (initStreamsOf start.characteristics c tc).toBool

theorem length_cameraStreams :
    (preInitStream start.characteristics c tc).length =
      (initStreams tc (c.toQCamxConfig enc)).cameraStreams.length := by
  have hmode : videoMode (c.toQCamxConfig enc) = videoModeOf c := rfl
  cases tc with
  | previewOnly | previewSnapshot | previewVideo | videoOnly =>
      simp [preInitStream, initStreams, QCamx.initPreviewStream, QCamx.initSnapshotStreams,
        QCamx.initVideoStream, QCamx.initVideoOnlyStream]
  | hal3TestVideo =>
      simp only [preInitStream, initStreams, QCamx.initVideoStreams, hal3TestVideoStreams, hmode]
      split_ifs <;> simp_all [Config.toQCamxConfig]
  | hal3TestDepth =>
      simp only [preInitStream, initStreams, QCamx.initDepthStream]
      split_ifs <;> simp_all [Config.toQCamxConfig]

/-- What `run` has set up. -/
def setup : Setup where
  testCase := tc
  config := c.toQCamxConfig enc
  callbacks := some ⟨true, true, true⟩
  camera3Streams := start.camera3Streams tc c
  allocated := start.allocated
  settingMetadataList := if start.getsOn tc c then start.settingMetadataList else []
  currentMetadata := if start.getsOn tc c then start.currentMetadata else {}
  nodup_streams := by
    unfold Start.camera3Streams
    split
    · exact List.nodup_range.map start.stream_injective
    · exact List.nodup_nil
  length_streams := by
    unfold Start.camera3Streams
    split
    case h_1 call hcall =>
      have hstreams := (initStreamsOf_eq_ok_iff.mp hcall).2.2
      rw [List.length_map, List.length_range, hstreams]
      exact .inr (length_cameraStreams enc tc c start)
    case h_2 => exact .inl rfl
  nodup_allocated := start.nodup_allocated

/-- A new case that is running. -/
def newCase (configured : Option Bool) : Case where
  setup := setup enc tc c start
  config := c
  cameraId := c.cameraId
  opened := start.opens
  wild := start.wild
  configured := configured
  device := (setup enc tc c start).init

/-- `new`, `set_callbacks`, `pre_init_stream`, `open_camera` and `run`. No result of these is looked
at: `config_streams` calls the HAL through `_camera3_device` also where `open` has failed, and the
threads start in any case. -/
def startCase : Except Fault Case :=
  match initStreamsOf start.characteristics c tc with
  | .error (.unsupported _) => .ok (newCase enc tc c start none)
  | .error .sensorModeTable => .error .sensorModeTable
  | .ok _ =>
      if start.opens || start.wild then .ok (newCase enc tc c start (some start.configures))
      else .error .unopenedDevice

end Start

/-! ## The state -/

/-- What `main` does when the `stop` of a case has returned; `i` is the index of its slot. -/
inductive Next
  /-- Command `D`. -/
  | delete (i : ℤ)
  /-- Command `v`. -/
  | switch (i : ℤ)
  /-- The loop at the end. -/
  | shutdown (i : ℤ)
  deriving DecidableEq, Repr

/-- The slot of the case that is being stopped. -/
@[simp] def Next.slot : Next → ℤ
  | delete i | switch i | shutdown i => i

/-- Where `main` is. -/
inductive Pc
  /-- Before the next line. -/
  | prompt
  /-- In the `stop` of a case. -/
  | stopping (k : ℕ) (next : Next)
  /-- In the loop at the end. -/
  | shutdown (i : ℤ)
  | returned
  deriving DecidableEq, Repr

/-- `MAX_CAMERA`. -/
def maxCamera : ℤ := 8

end Console

/-- The state of the program: pointers to cases are indices into the list of all cases so far. -/
structure Console where
  sHAL3Test : ℤ → Option ℕ := fun _ => none
  cases : List Console.Case := []
  currentCameraId : Int32 := 0
  pc : Console.Pc := .prompt
  fault : Option Console.Fault := none

namespace Console

variable (w : Console)

/-- An index of `s_HAL3_test`. -/
def InRange (i : ℤ) : Prop := 0 ≤ i ∧ i < maxCamera

instance (i : ℤ) : Decidable (InRange i) := inferInstanceAs (Decidable (0 ≤ i ∧ i < maxCamera))

/-- `s_HAL3_test[i]`. -/
def slot (i : ℤ) : Except Fault (Option ℕ) :=
  if InRange i then .ok (w.sHAL3Test i) else .error .outOfBounds

/-- `s_HAL3_test[i] = p`. -/
def setSlot (i : ℤ) (p : Option ℕ) : Except Fault Console :=
  if InRange i then .ok { w with sHAL3Test := Function.update w.sHAL3Test i p }
  else .error .outOfBounds

/-- The case at a pointer. -/
def deref (k : ℕ) : Except Fault Case :=
  match w.cases[k]? with
  | some c => if c.deleted then .error .deletedCase else .ok c
  | none => .error .deletedCase

/-- The case in a slot, which is not looked at before. -/
def caseAt (i : ℤ) : Except Fault (ℕ × Case) := do
  match ← w.slot i with
  | none => .error .nullCase
  | some k => return (k, ← w.deref k)

def setCase (k : ℕ) (c : Case) : Console := { w with cases := w.cases.set k c }

/-- `s_HAL3_test[testConf->_camera_id] = testCase` for a new case. -/
def register (c : Case) : Except Fault Console :=
  { w with cases := w.cases ++ [c] }.setSlot c.config.cameraId.toInt (some w.cases.length)

end Console

end QCamx
