import QCamx.Metadata.Result

/-!
# `QCamxCase::handle_metadata`

Some twenty blocks, each of which looks up a tag, compares its value with the recorded one, and logs
and records it if they differ. The block of the scene results is not like the others: without the
tag its index is still `0`, which counts as a difference. The blocks of the zoom and of the shown
crop region have one record between them.

* `MetaEntry`, `MetaEntry.report`: a block; `reportSceneMode`: the one that differs;
* `MetaField.entry`: the blocks, each under the name of its switch;
* `handleMetadata`, `statAfter`: a result and a sequence of results.
-/

namespace QCamx

/-! ## Blocks -/

/-- The blocks, in the order of the function. -/
inductive MetaField
  | exposureValue | isoValue | aeMode | awbMode | afMode | afValue | aeAntiMode
  | colorCorrectMode | colorCorrectValue | controlMode | sceneMode | hdrMode | zoomValue | zslMode
  | numFrames | expMetering | selPriority | expPriority | jpegquality | showCropRegion
  | temperature
  deriving DecidableEq, Repr

/-- An argument of `print`; `hundredths` is a hundredth of a number. -/
inductive LogArg
  | uint (n : UInt32)
  | int (n : Int32)
  | uint64 (n : UInt64)
  | int64 (n : Int64)
  | float (x : Binary32)
  | hundredths (n : Int32)
  deriving DecidableEq, Repr

/-- A line of the log, with the block that prints it. -/
structure LogLine where
  field : MetaField
  format : String
  args : List LogArg
  deriving DecidableEq, Repr

/-- A block: its switch, its value, its member of `_meta_stat` and what it prints. -/
structure MetaEntry (α : Type) where
  switch : MetaSwitches → Int32
  /-- The value in a result, `none` where the block does nothing without the tag. -/
  value : MetaHandler → MetadataResult → Option α
  recorded : MetaStat → α
  store : α → MetaStat → MetaStat
  /-- The test of the value and the recorded one. -/
  differs : α → α → Bool
  /-- The lines for a frame, a value and the recorded one. -/
  lines : UInt32 → α → α → List (String × List LogArg)

/-- What a block does to `_meta_stat`, and what it prints. -/
def MetaEntry.report {α : Type} (e : MetaEntry α) (h : MetaHandler) (r : MetadataResult)
    (st : MetaStat) : MetaStat × List (String × List LogArg) :=
  if e.switch h.metaDump = 0 then (st, [])
  else
    match e.value h r with
    | none => (st, [])
    | some v =>
        if e.differs v (e.recorded st) then (e.store v st, e.lines r.frameNumber v (e.recorded st))
        else (st, [])

/-! ## Values and texts -/

/-- `entry.data.u8[0]` as an `int`. -/
def MetadataResult.byte (r : MetadataResult) (t : ResultTag) : Option Int32 :=
  (r.u8 t).head?.map fun b => b.toUInt32.toInt32

/-- A line with the frame and the value. -/
def valueLine {α : Type} (format : String) (arg : α → LogArg) (frame : UInt32) (v _old : α) :
    List (String × List LogArg) :=
  [(format, [.uint frame, arg v])]

/-- The lines of a `switch` on a mode; a `case` without `break` has those of the next one too. -/
def modeLines (texts : List (Int32 × String)) (frame : UInt32) (v _old : Int32) :
    List (String × List LogArg) :=
  (texts.filter (·.1 = v)).map fun t => (t.2, [.uint frame])

def cropLine (frame : UInt32) (v _old : Vector Int32 4) : List (String × List LogArg) :=
  [("frame:%d ZOOM:crop region[%d,%d,%d,%d]\n",
    [.uint frame, .int v[0], .int v[1], .int v[2], .int v[3]])]

/-- Where a loop over `n` elements from `i` on stops that compares two arrays. -/
def firstDifference {α : Type} [DecidableEq α] (a b : ℕ → α) : ℕ → ℕ → ℕ
  | 0, i => i
  | n + 1, i => if a i ≠ b i then i else firstDifference a b n (i + 1)

/-- The test of the two blocks with a crop region. -/
def cropDiffers (a b : Vector Int32 4) : Bool :=
  decide (firstDifference (a[·]?) (b[·]?) 4 0 < 4)

/-- The test of the scene results, of which the first six are not compared. -/
def asdDiffers (a b : Vector Int32 10) : Bool :=
  decide (firstDifference (a[·]?) (b[·]?) 4 6 < 10)

namespace MetaField

/-! ## The blocks one by one -/

/-- The type of the value of a block. -/
def Value : MetaField → Type
  | exposureValue => UInt64
  | afValue | colorCorrectValue => Binary32
  | sceneMode => Vector Int32 10
  | zoomValue | showCropRegion => Vector Int32 4
  | expPriority => Int64
  | _ => Int32

def exposureValueEntry : MetaEntry UInt64 where
  switch d := d.exposureValue
  value _ r := some (((r.i64 .sensorExposureTime).head?.getD 0).toUInt64)
  recorded st := st.exposureTime
  store v st := { st with exposureTime := v }
  differs a b := a != b
  lines := valueLine "frame:%d exposure value = %llu\n" .uint64

def isoValueEntry : MetaEntry Int32 where
  switch d := d.isoValue
  value _ r := some ((r.i32 .sensorSensitivity).head?.getD 0)
  recorded st := st.isoValue
  store v st := { st with isoValue := v }
  differs a b := a != b
  lines := valueLine "frame:%d iso value = %d\n" .int

def aeModeEntry : MetaEntry Int32 where
  switch d := d.aeMode
  value _ r := some ((r.byte .controlAeMode).getD 0)
  recorded st := st.aeMode
  store v st := { st with aeMode := v }
  differs a b := a != b
  lines := modeLines
    [(0, "frame:%d ae mode:AE MODE OFF\n"), (1, "frame:%d ae mode:AE MODE ON\n")]

def awbModeEntry : MetaEntry Int32 where
  switch d := d.awbMode
  value _ r := some ((r.byte .controlAwbMode).getD 0)
  recorded st := st.awbMode
  store v st := { st with awbMode := v }
  differs a b := a != b
  lines := modeLines
    [(0, "frame:%d awb mode:AWB MODE OFF\n"), (1, "frame:%d awb mode:AWB MODE AUTO\n")]

def afModeEntry : MetaEntry Int32 where
  switch d := d.afMode
  value _ r := some ((r.byte .controlAfMode).getD 0)
  recorded st := st.afMode
  store v st := { st with afMode := v }
  differs a b := a != b
  lines := modeLines
    [(0, "frame:%d af mode:AF MODE OFF\n"), (1, "frame:%d af mode:AF MODE AUTO\n"),
      (2, "frame:%d af mode:AF MODE MACRO\n"), (3, "frame:%d af mode:AF MODE CONTINUOUS VIDEO\n"),
      (3, "frame:%d af mode:AF MODE CONTINUOUS PICTURE\n"),
      (4, "frame:%d af mode:AF MODE CONTINUOUS PICTURE\n")]

def afValueEntry : MetaEntry Binary32 where
  switch d := d.afValue
  value _ r := some ((r.f .lensFocusDistance).head?.getD {})
  recorded st := st.afValue
  store v st := { st with afValue := v }
  differs := Binary32.ne
  lines := valueLine "frame:%d af focus distance = %f\n" .float

def aeAntiModeEntry : MetaEntry Int32 where
  switch d := d.aeAntiMode
  value _ r := some ((r.byte .controlAeAntibandingMode).getD 0)
  recorded st := st.aeAntiMode
  store v st := { st with aeAntiMode := v }
  differs a b := a != b
  lines := modeLines
    [(0, "frame:%d aeAnti mode:AE ANTI MODE OFF\n"),
      (1, "frame:%d aeAnti mode:AE ANTI MODE 50HZ\n"),
      (2, "frame:%d aeAnti mode:AE ANTI MODE 60HZ\n"),
      (3, "frame:%d aeAnti mode:AE ANTI MODE AUTO\n")]

def colorCorrectModeEntry : MetaEntry Int32 where
  switch d := d.colorCorrectMode
  value _ r := some ((r.byte .colorCorrectionMode).getD 0)
  recorded st := st.colorCorrectMode
  store v st := { st with colorCorrectMode := v }
  differs a b := a != b
  lines := modeLines
    [(0, "frame:%d color correction mode:TRANSFORM_MATRIX\n"),
      (1, "frame:%d color correction mode:FAST\n"),
      (2, "frame:%d color correction mode:HIGH QUALLITY\n")]

def colorCorrectValueEntry : MetaEntry Binary32 where
  switch d := d.colorCorrectValue
  value _ r := some ((r.f .colorCorrectionGains).head?.getD {})
  recorded st := st.colorCorrectValue
  store v st := { st with colorCorrectValue := v }
  differs := Binary32.ne
  lines := valueLine "frame:%d color correction gain = %f\n" .float

def controlModeEntry : MetaEntry Int32 where
  switch d := d.controlMode
  value _ r := some ((r.byte .controlMode).getD 0)
  recorded st := st.controlMode
  store v st := { st with controlMode := v }
  differs a b := a != b
  lines := modeLines
    [(0, "frame:%d control mode:OFF\n"), (1, "frame:%d control mode:AUTO\n"),
      (2, "frame:%d control mode:ON\n")]

/-- The scene results, as far as they are like the other values. -/
def sceneModeEntry : MetaEntry (Vector Int32 10) where
  switch d := d.sceneMode
  value _ r := some (r.array 10 .asdResults)
  recorded st := st.asdresults
  store v st := { st with asdresults := v }
  differs := asdDiffers
  lines frame v _ :=
    [("frame:%d asdresults   Backlight %d, Landscape %d, Snow %d, Hdr %d\n",
      [.uint frame, .int v[6], .int v[7], .int v[8], .int v[9]])]

def hdrModeEntry : MetaEntry Int32 where
  switch d := d.hdrMode
  value _ r := some ((r.byte (.vendor "org.codeaurora.qcamera3.stats.is_hdr_scene")).getD 0)
  recorded st := st.hdrMode
  store v st := { st with hdrMode := v }
  differs a b := a != b
  lines := valueLine "frame:%d is hdr scene = %d\n" .int

def zoomValueEntry : MetaEntry (Vector Int32 4) where
  switch d := d.zoomValue
  value _ r := some (r.array 4 .scalerCropRegion)
  recorded st := st.cropregion
  store v st := { st with cropregion := v }
  differs := cropDiffers
  lines := cropLine

def zslModeEntry : MetaEntry Int32 where
  switch d := d.zslMode
  value _ r := r.byte .controlEnableZsl
  recorded st := st.zslMode
  store v st := { st with zslMode := v }
  differs a b := a != b
  lines := valueLine "frame:%d ZSL mode:%d\n" .int

def numFramesEntry : MetaEntry Int32 where
  switch d := d.numFrames
  value _ r := (r.i32 (.vendor "org.quic.camera2.mfnrconfigs.MFNRTotalNumFrames")).head?
  recorded st := st.numFrames
  store v st := { st with numFrames := v }
  differs a b := a != b
  lines := valueLine "frame:%d num Frames:%d\n" .int

def expMeteringEntry : MetaEntry Int32 where
  switch d := d.expMetering
  value _ r :=
    (r.i32 (.vendor "org.codeaurora.qcamera3.exposure_metering.exposure_metering_mode")).head?
  recorded st := st.expMetering
  store v st := { st with expMetering := v }
  differs a b := a != b
  lines := valueLine "frame:%d expMetering:%d\n" .int

def selPriorityEntry : MetaEntry Int32 where
  switch d := d.selPriority
  value _ r := (r.i32 (.vendor "org.codeaurora.qcamera3.iso_exp_priority.select_priority")).head?
  recorded st := st.selPriority
  store v st := { st with selPriority := v }
  differs a b := a != b
  lines := valueLine "frame:%d select priority:%d\n" .int

def expPriorityEntry : MetaEntry Int64 where
  switch d := d.expPriority
  value _ r :=
    (r.i64 (.vendor "org.codeaurora.qcamera3.iso_exp_priority.use_iso_exp_priority")).head?
  recorded st := st.expPriority
  store v st := { st with expPriority := v }
  differs a b := a != b
  lines := valueLine "frame:%d ios exp priority:%lld\n" .int64

def jpegqualityEntry : MetaEntry Int32 where
  switch d := d.jpegquality
  value _ r := some ((r.byte .jpegQuality).getD 0)
  recorded st := st.jpegquality
  store v st := { st with jpegquality := v }
  differs a b := a != b
  lines frame v old :=
    [("frame:%d jpegquality value = %d mMetaStat %d\n", [.uint frame, .int v, .int old])]

/-- The second block with the record of the zoom. -/
def showCropRegionEntry : MetaEntry (Vector Int32 4) where
  switch d := d.showCropRegion
  value _ r := some (r.array 4 .scalerCropRegion)
  recorded st := st.cropregion
  store v st := { st with cropregion := v }
  differs := cropDiffers
  lines := cropLine

def temperatureEntry : MetaEntry Int32 where
  switch d := d.temperature
  value h r :=
    if h.tagIdTemperature ≠ 0 then
      (r.i64 (.vendor "com.qti.chi.temperature.temperature")).head?.map Int64.toInt32
    else none
  recorded st := st.temperature
  store v st := { st with temperature := v }
  differs a b := a != b
  lines _ v _ := [("Temperature:%.2f\n", [.hundredths v])]

/-- All blocks. -/
def entry : (f : MetaField) → MetaEntry f.Value
  | exposureValue => exposureValueEntry
  | isoValue => isoValueEntry
  | aeMode => aeModeEntry
  | awbMode => awbModeEntry
  | afMode => afModeEntry
  | afValue => afValueEntry
  | aeAntiMode => aeAntiModeEntry
  | colorCorrectMode => colorCorrectModeEntry
  | colorCorrectValue => colorCorrectValueEntry
  | controlMode => controlModeEntry
  | sceneMode => sceneModeEntry
  | hdrMode => hdrModeEntry
  | zoomValue => zoomValueEntry
  | zslMode => zslModeEntry
  | numFrames => numFramesEntry
  | expMetering => expMeteringEntry
  | selPriority => selPriorityEntry
  | expPriority => expPriorityEntry
  | jpegquality => jpegqualityEntry
  | showCropRegion => showCropRegionEntry
  | temperature => temperatureEntry

/-- The block of the scene results. The index of its loop starts with `0`, and without an entry
there is no loop. -/
def reportSceneMode (h : MetaHandler) (r : MetadataResult) (st : MetaStat) :
    MetaStat × List (String × List LogArg) :=
  if h.metaDump.sceneMode = 0 then (st, [])
  else
    let asdresults := r.array 10 .asdResults
    let i := if r.i32 .asdResults = [] then 0
      else firstDifference (asdresults[·]?) (st.asdresults[·]?) 4 6
    if i < 10 then
      ({ st with asdresults }, sceneModeEntry.lines r.frameNumber asdresults st.asdresults)
    else (st, [])

/-- What a block does. -/
def report : MetaField → MetaHandler → MetadataResult → MetaStat →
    MetaStat × List (String × List LogArg)
  | sceneMode => reportSceneMode
  | f => f.entry.report

/-- The blocks in their order. -/
def all : List MetaField :=
  [exposureValue, isoValue, aeMode, awbMode, afMode, afValue, aeAntiMode, colorCorrectMode,
    colorCorrectValue, controlMode, sceneMode, hdrMode, zoomValue, zslMode, numFrames, expMetering,
    selPriority, expPriority, jpegquality, showCropRegion, temperature]

end MetaField

/-! ## The handler -/

/-- One block after others. -/
def handleStep (h : MetaHandler) (r : MetadataResult) (p : MetaStat × List LogLine)
    (f : MetaField) : MetaStat × List LogLine :=
  ((f.report h r p.1).1, p.2 ++ (f.report h r p.1).2.map fun t => ⟨f, t.1, t.2⟩)

/-- `QCamxCase::handle_metadata`: the new `_meta_stat`, and the lines that are logged. -/
def handleMetadata (h : MetaHandler) (r : MetadataResult) (st : MetaStat) :
    MetaStat × List LogLine :=
  if 1 ≤ r.partialResult then MetaField.all.foldl (handleStep h r) (st, []) else (st, [])

/-- `_meta_stat` after some results. -/
def statAfter (h : MetaHandler) (results : List MetadataResult) (st : MetaStat) : MetaStat :=
  results.foldl (fun st r => (handleMetadata h r st).1) st

end QCamx
