import QCamx.Config.MetaDump

/-!
# The metadata of a result

What the handlers of metadata read and write: the entries of a capture result, the switches
`_meta_dump`, and the values `_meta_stat` that were last recorded.

* `Binary32`: a `float`, compared as the source compares it;
* `ResultTag`, `MetadataResult`: the entries of a result;
* `MetaSwitches`, `MetaHandler`, `MetaStat`: the members that the handlers use.
-/

namespace QCamx

/-! ## Numbers -/

/-- A `float`, by its bits. -/
structure Binary32 where
  bits : UInt32 := 0
  deriving DecidableEq, Repr

namespace Binary32

/-- The bits without the sign. -/
def magnitude (x : Binary32) : UInt32 := x.bits &&& 0x7FFFFFFF

def isNaN (x : Binary32) : Bool := decide (0x7F800000 < x.magnitude)

def isZero (x : Binary32) : Bool := x.magnitude == 0

/-- `!=` on `float`: NaN differs from everything, and the two zeros are equal. -/
def ne (x y : Binary32) : Bool :=
  x.isNaN || y.isNaN || !(x == y || (x.isZero && y.isZero))

end Binary32

/-! ## Entries -/

/-- The tags that the handlers look up; a vendor tag is found by its name. -/
inductive ResultTag
  | sensorExposureTime | sensorSensitivity | controlAeMode | controlAwbMode | controlAfMode
  | lensFocusDistance | controlAeAntibandingMode | colorCorrectionMode | colorCorrectionGains
  | controlMode | scalerCropRegion | controlEnableZsl | jpegQuality
  | vendor (name : String)
  deriving DecidableEq, Repr

namespace ResultTag

def asdResults : ResultTag := vendor "org.quic.camera2.asdresults.ASDResults"

def satActiveSensorArray : ResultTag :=
  vendor "org.quic.camera2.sensormode.info.SATActiveSensorArray"

def satScalerCropRegion : ResultTag :=
  vendor "org.quic.camera2.sensormode.info.SATScalerCropRegion"

/-- How many values of an entry the handlers read. -/
def count (t : ResultTag) : ℕ :=
  if t = asdResults then 10
  else if t = scalerCropRegion ∨ t = satActiveSensorArray ∨ t = satScalerCropRegion then 4
  else 1

end ResultTag

/-- A capture result. The data of the entry that `find_camera_metadata_ro_entry` finds is a list
for each type it is read as, and the list is empty if there is no entry. -/
structure MetadataResult where
  frameNumber : UInt32
  partialResult : UInt32
  u8 : ResultTag → List UInt8 := fun _ => []
  i32 : ResultTag → List Int32 := fun _ => []
  i64 : ResultTag → List Int64 := fun _ => []
  f : ResultTag → List Binary32 := fun _ => []
  /-- An entry has the values that are read. -/
  whole : ∀ t, i32 t = [] ∨ t.count ≤ (i32 t).length

namespace MetadataResult

variable (r : MetadataResult)

/-- An array of `n` zeros, into which the first `n` values are copied if there is an entry. -/
def array (n : ℕ) (t : ResultTag) : Vector Int32 n := Vector.ofFn fun i => (r.i32 t)[i.val]?.getD 0

theorem array_of_absent {n : ℕ} {t : ResultTag} (h : r.i32 t = []) :
    r.array n t = Vector.replicate n 0 := by
  ext i hi
  simp [array, h]

end MetadataResult

/-! ## Members -/

/-- `meta_dump_t` as far as the handlers read it. No option sets the last two members. -/
structure MetaSwitches extends MetaDump where
  temperature : Int32 := 1
  satCamId : Int32 := 0
  deriving DecidableEq, Repr

/-- What the handlers read of a test case. -/
structure MetaHandler where
  metaDump : MetaSwitches := {}
  /-- `_tag_id_temperature`, `0` if the tag has no number. -/
  tagIdTemperature : UInt32 := 0
  deriving DecidableEq, Repr

/-- `meta_stat_t`, zeroed by the constructor of the configuration. -/
structure MetaStat where
  exposureTime : UInt64 := 0
  isoValue : Int32 := 0
  aeMode : Int32 := 0
  awbMode : Int32 := 0
  afMode : Int32 := 0
  afValue : Binary32 := {}
  aeAntiMode : Int32 := 0
  colorCorrectMode : Int32 := 0
  colorCorrectValue : Binary32 := {}
  controlMode : Int32 := 0
  asdresults : Vector Int32 10 := Vector.replicate 10 0
  hdrMode : Int32 := 0
  cropregion : Vector Int32 4 := Vector.replicate 4 0
  zslMode : Int32 := 0
  numFrames : Int32 := 0
  expMetering : Int32 := 0
  selPriority : Int32 := 0
  expPriority : Int64 := 0
  jpegquality : Int32 := 0
  temperature : Int32 := 0
  camId : Int32 := 0
  activeArray : Vector Int32 4 := Vector.replicate 4 0
  cropRegion : Vector Int32 4 := Vector.replicate 4 0
  deriving DecidableEq, Repr

end QCamx
