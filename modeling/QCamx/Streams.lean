import QCamx.Config
import QCamx.Lib.Outcome

/-!
# The streams a test case configures

The streams that `pre_init_stream` describes, the search of the device's stream table that checks
them, and the call of `config_streams` at which an init function arrives.

* `getValidOutputStreams`: the search of `ANDROID_SCALER_AVAILABLE_STREAM_CONFIGURATIONS`;
* `selectOperateMode`: the sensor mode of a high frame rate, read without a check from a table that
  may be absent;
* `initStreamsOf`: the six init functions, up to their call of `config_streams`;
* `uncheckedStreams`: the streams that are configured but not looked up.
-/

namespace QCamx.Streams

open Outcome

/-! ## The device's tables -/

/-- `AvailableStream`. -/
structure AvailableStream where
  width : Int32
  height : Int32
  format : Int32
  deriving DecidableEq, Repr

/-- What the init functions read of the static metadata: the table of stream configurations, unless
the metadata or the entry is missing, the vendor's sensor mode table, empty when it is not found,
and `_active_sensor_width` and `_active_sensor_height`. -/
structure Characteristics where
  streamConfigurations : Option (List Int32)
  sensorModeTable : List Int32
  activeSensor : UInt32 × UInt32

/-- `ANDROID_SCALER_AVAILABLE_STREAM_CONFIGURATIONS_OUTPUT`. -/
def configurationsOutput : Int32 := 0

/-- The loop of `get_valid_output_streams` over the entries `format, width, height, direction`. -/
def scanConfigurations (validStream : Option AvailableStream) : List Int32 → List AvailableStream
  | format :: width :: height :: direction :: rest =>
      if direction = configurationsOutput then
        match validStream with
        | none => ⟨width, height, format⟩ :: scanConfigurations validStream rest
        | some s =>
            if s.format = format ∧ s.width = width ∧ s.height = height then
              ⟨width, height, s.format⟩ :: scanConfigurations validStream rest
            else scanConfigurations validStream rest
      else scanConfigurations validStream rest
  | _ => []

/-- `get_valid_output_streams`; `none` is its return value `-1`. -/
def getValidOutputStreams (d : Characteristics) (validStream : Option AvailableStream) :
    Option (List AvailableStream) :=
  match d.streamConfigurations with
  | none => none
  | some table =>
      if table.length % 4 ≠ 0 then none
      else
        match scanConfigurations validStream table with
        | [] => none
        | s :: ss => some (s :: ss)

/-! ## Operation mode -/

/-- `CAMERA3_STREAM_CONFIGURATION_NORMAL_MODE`. -/
def normalMode : UInt32 := 0

/-- `CAMERA3_STREAM_CONFIGURATION_CONSTRAINED_HIGH_SPEED_MODE`. -/
def constrainedHighSpeedMode : UInt32 := 1

/-- `MAX_SENSOR_FPS`. -/
def maxSensorFps : ℤ := 480

/-- Element `i` of the sensor mode table; there is none outside of the table. -/
def readTable (table : List Int32) (i : ℤ) : Option ℤ :=
  if 0 ≤ i then table[i.toNat]?.map Int32.toInt else none

/-- One round of the loop of `select_operate_mode`, on the best frame rate and mode so far. -/
def selectStep (table : List Int32) (modeSize width height fps : ℤ) (best : ℤ × ℤ) (i : ℕ) :
    Option (ℤ × ℤ) :=
  (readTable table (2 + i * modeSize)).bind fun sWidth =>
    (readTable table (3 + i * modeSize)).bind fun sHeight =>
      (readTable table (4 + i * modeSize)).map fun sFps =>
        if width ≤ sWidth ∧ height ≤ sHeight ∧ fps ≤ sFps ∧ sFps ≤ best.1 then (sFps, (i : ℤ))
        else best

/-- `select_operate_mode`, and `selectOpMode` of `QCamxHAL3TestVideo`; `none` when the table is
absent or too short for what is read. -/
def selectOperateMode (table : List Int32) (mode : UInt32) (width height fps : ℤ) :
    Option UInt32 :=
  (readTable table 0).bind fun modeCount =>
    (readTable table 1).bind fun modeSize =>
      ((List.range modeCount.toNat).foldlM (selectStep table modeSize width height fps)
        (maxSensorFps, -1)).map fun (best : ℤ × ℤ) =>
          if 0 < best.2 then
            mode ||| (UInt32.ofInt (best.2 + 1) <<< 16) ||| ((1 : UInt32) <<< 24)
          else mode

/-! ## The described streams -/

/-- The fields of `camera3_stream_t` that tell what a stream is. -/
structure Camera3Stream where
  width : UInt32
  height : UInt32
  format : Int32
  deriving DecidableEq, Repr

/-- The stream that `pre_init_stream` describes from a member of the configuration. -/
def camera3Stream (s : StreamInfo) : Camera3Stream :=
  ⟨s.width.toUInt32, s.height.toUInt32, s.format⟩

/-- The stream an init function looks up for a member of the configuration. -/
def threshold (s : StreamInfo) : AvailableStream := ⟨s.width, s.height, s.format⟩

/-- The video mode of a configuration. -/
def videoModeOf (c : Config) : VideoMode := videoMode (c.toQCamxConfig false)

/-- `mRawSnapshotStream`. -/
def rawSnapshotStream (d : Characteristics) (c : Config) : Camera3Stream :=
  if c.rawStream.width ≠ 0 ∧ c.rawStream.height ≠ 0 then
    ⟨c.rawStream.width.toUInt32, c.rawStream.height.toUInt32, c.rawformat⟩
  else ⟨d.activeSensor.1, d.activeSensor.2, c.rawformat⟩

/-- `_streams` as the `pre_init_stream` of a case leaves it. -/
def preInitStream (d : Characteristics) (c : Config) : TestCase → List Camera3Stream
  | .previewOnly => [camera3Stream c.previewStream]
  | .previewSnapshot => [camera3Stream c.previewStream, camera3Stream c.snapshotStream]
  | .previewVideo => [camera3Stream c.previewStream, camera3Stream c.videoStream]
  | .videoOnly => [camera3Stream c.videoStream]
  | .hal3TestVideo =>
      if (videoModeOf c).value ≤ VideoMode.hfr60.value then
        [camera3Stream c.previewStream, camera3Stream c.videoStream,
          camera3Stream c.snapshotStream] ++
          if c.rawStreamEnable then [rawSnapshotStream d c] else []
      else [camera3Stream c.previewStream, camera3Stream c.videoStream]
  | .hal3TestDepth =>
      camera3Stream c.depthStream ::
        if c.depthIRBGEnabled then [camera3Stream c.depthIRBGStream] else []

/-! ## Init -/

/-- How an init function ends before its call of `config_streams`. -/
inductive InitFailure
  | unsupported (s : AvailableStream)
  | sensorModeTable
  deriving DecidableEq, Repr

/-- The arguments of `config_streams`. -/
structure ConfigStreams where
  streams : List Camera3Stream
  opMode : UInt32
  deriving DecidableEq, Repr

/-- The check of one stream: an init function returns `-1` if it finds none. -/
def checkStream (d : Characteristics) (s : StreamInfo) : Except InitFailure Unit :=
  match getValidOutputStreams d (some (threshold s)) with
  | none => .error (.unsupported (threshold s))
  | some _ => .ok ()

/-- The stream of the greatest size, the first of equals. -/
def largestStream (streams : List Camera3Stream) : Option Camera3Stream :=
  (streams.foldl (fun (best : UInt32 × Option Camera3Stream) s =>
    if best.1 < s.width * s.height then (s.width * s.height, some s) else best)
    (0, streams.head?)).2

/-- The operation mode of the video cases. -/
def videoOpMode (d : Characteristics) (c : Config) (streams : List Camera3Stream) :
    Except InitFailure UInt32 :=
  if VideoMode.hfr60.value ≤ (videoModeOf c).value then
    match largestStream streams with
    | none => .error .sensorModeTable
    | some s =>
        match selectOperateMode d.sensorModeTable constrainedHighSpeedMode s.width.toInt32.toInt
          s.height.toInt32.toInt c.fpsRange.2.toInt with
        | none => .error .sensorModeTable
        | some mode => .ok mode
  else .ok normalMode

/-- `QCamxPreviewOnlyCase::init_preview_stream`. -/
def initPreviewStream (d : Characteristics) (c : Config) (streams : List Camera3Stream) :
    Except InitFailure ConfigStreams := do
  checkStream d c.previewStream
  return ⟨streams, normalMode⟩

/-- `QCamxPreviewSnapshotCase::init_snapshot_streams`. -/
def initSnapshotStreams (d : Characteristics) (c : Config) (streams : List Camera3Stream) :
    Except InitFailure ConfigStreams := do
  checkStream d c.previewStream
  checkStream d c.snapshotStream
  return ⟨streams, normalMode⟩

/-- `QCamxPreviewVideoCase::init_video_stream`. -/
def initVideoStream (d : Characteristics) (c : Config) (streams : List Camera3Stream) :
    Except InitFailure ConfigStreams := do
  checkStream d c.previewStream
  checkStream d c.videoStream
  let opMode ← videoOpMode d c streams
  return ⟨streams, opMode⟩

/-- `QCamxVideoOnlyCase::init_video_only_stream`. -/
def initVideoOnlyStream (d : Characteristics) (c : Config) (streams : List Camera3Stream) :
    Except InitFailure ConfigStreams := do
  checkStream d c.videoStream
  let opMode ← videoOpMode d c streams
  return ⟨streams, opMode⟩

/-- `QCamxHAL3TestVideo::initVideoStreams`. -/
def initVideoStreams (d : Characteristics) (c : Config) (streams : List Camera3Stream) :
    Except InitFailure ConfigStreams := do
  checkStream d c.previewStream
  checkStream d c.videoStream
  (if streams.length = 3 ∧ (videoModeOf c).value ≤ VideoMode.hfr60.value then
    checkStream d c.snapshotStream else .ok ())
  let opMode ← videoOpMode d c streams
  return ⟨streams, opMode⟩

/-- `QCamxHAL3TestDepth::initDepthStream`. -/
def initDepthStream (d : Characteristics) (c : Config) (streams : List Camera3Stream) :
    Except InitFailure ConfigStreams := do
  checkStream d c.depthStream
  return ⟨streams, 0x1100000⟩

/-- The init function of a case, on the streams that its `pre_init_stream` described. -/
def initStreamsOf (d : Characteristics) (c : Config) (tc : TestCase) :
    Except InitFailure ConfigStreams :=
  match tc with
  | .previewOnly => initPreviewStream d c (preInitStream d c tc)
  | .previewSnapshot => initSnapshotStreams d c (preInitStream d c tc)
  | .previewVideo => initVideoStream d c (preInitStream d c tc)
  | .videoOnly => initVideoOnlyStream d c (preInitStream d c tc)
  | .hal3TestVideo => initVideoStreams d c (preInitStream d c tc)
  | .hal3TestDepth => initDepthStream d c (preInitStream d c tc)

/-! ## What the table search accepts -/

/-- Entry `k` of the table is the output stream `s`. -/
structure OutputAt (s : AvailableStream) (table : List Int32) (k : ℕ) : Prop where
  format : table[4 * k]? = some s.format
  width : table[4 * k + 1]? = some s.width
  height : table[4 * k + 2]? = some s.height
  direction : table[4 * k + 3]? = some configurationsOutput

/-- A stream occurs as an output entry of the device's table of stream configurations. -/
def Supported (d : Characteristics) (s : Camera3Stream) : Prop :=
  ∃ table, d.streamConfigurations = some table ∧ table.length % 4 = 0 ∧
    ∃ k, OutputAt ⟨s.width.toInt32, s.height.toInt32, s.format⟩ table k

theorem outputAt_zero_iff {s : AvailableStream} {format width height direction : Int32}
    {rest : List Int32} :
    OutputAt s (format :: width :: height :: direction :: rest) 0 ↔
      direction = configurationsOutput ∧ s.format = format ∧ s.width = width ∧
        s.height = height := by
  constructor
  · rintro ⟨hf, hw, hh, hd⟩
    simp only [Nat.mul_zero, Nat.zero_add, List.getElem?_cons_zero, List.getElem?_cons_succ,
      Option.some.injEq] at hf hw hh hd
    exact ⟨hd, hf.symm, hw.symm, hh.symm⟩
  · rintro ⟨rfl, rfl, rfl, rfl⟩
    exact ⟨rfl, rfl, rfl, rfl⟩

theorem outputAt_succ_iff {s : AvailableStream} {format width height direction : Int32}
    {rest : List Int32} {k : ℕ} :
    OutputAt s (format :: width :: height :: direction :: rest) (k + 1) ↔ OutputAt s rest k := by
  have hk : ∀ j, (format :: width :: height :: direction :: rest)[4 * (k + 1) + j]? =
      rest[4 * k + j]? := by
    intro j
    rw [show 4 * (k + 1) + j = 4 * k + j + 1 + 1 + 1 + 1 by omega]
    simp only [List.getElem?_cons_succ]
  constructor
  · rintro ⟨hf, hw, hh, hd⟩
    exact ⟨(hk 0).symm.trans hf, (hk 1).symm.trans hw, (hk 2).symm.trans hh, (hk 3).symm.trans hd⟩
  · rintro ⟨hf, hw, hh, hd⟩
    exact ⟨(hk 0).trans hf, (hk 1).trans hw, (hk 2).trans hh, (hk 3).trans hd⟩

theorem scanConfigurations_ne_nil_iff (s : AvailableStream) (table : List Int32) :
    scanConfigurations (some s) table ≠ [] ↔ ∃ k, OutputAt s table k := by
  fun_induction scanConfigurations (some s) table with
  | case1 format width height rest hs ih => exact absurd hs (by simp)
  | case2 format width height rest s' hs h ih =>
      obtain rfl := Option.some.inj hs
      exact iff_of_true (List.cons_ne_nil _ _) ⟨0, outputAt_zero_iff.mpr ⟨rfl, h⟩⟩
  | case3 format width height rest s' hs h ih =>
      obtain rfl := Option.some.inj hs
      rw [ih, ← Nat.or_exists_add_one
        (p := OutputAt s (format :: width :: height :: configurationsOutput :: rest))]
      simp only [outputAt_zero_iff, outputAt_succ_iff, h, and_false, false_or]
  | case4 format width height direction rest h ih =>
      rw [ih, ← Nat.or_exists_add_one
        (p := OutputAt s (format :: width :: height :: direction :: rest))]
      simp only [outputAt_zero_iff, outputAt_succ_iff, h, false_and, false_or]
  | case5 table h =>
      refine iff_of_false (by simp) ?_
      rintro ⟨k, hk⟩
      have hlen := (List.getElem?_eq_some_iff.mp hk.direction).1
      match table, h with
      | [], _ | [_], _ | [_, _], _ | [_, _, _], _ => simp at hlen
      | f :: w :: t :: d :: rest, h => exact h f w t d rest rfl

theorem getValidOutputStreams_isSome_iff {d : Characteristics} {s : Camera3Stream} :
    (getValidOutputStreams d (some ⟨s.width.toInt32, s.height.toInt32, s.format⟩)).isSome ↔
      Supported d s := by
  rw [Supported, getValidOutputStreams]
  cases htable : d.streamConfigurations with
  | none => simp
  | some table =>
      simp only [Option.some.injEq, exists_eq_left']
      rw [← scanConfigurations_ne_nil_iff]
      by_cases hlen : table.length % 4 = 0
      · simp only [hlen, ne_eq, not_true_eq_false, if_false, true_and]
        cases scanConfigurations (some ⟨s.width.toInt32, s.height.toInt32, s.format⟩) table <;>
          simp
      · simp [hlen]

/-! ## When the sensor mode table can be read -/

/-- The sensor mode table holds all that `select_operate_mode` reads of it. -/
def SensorModesPresent (table : List Int32) : Prop :=
  ∃ modeCount modeSize, readTable table 0 = some modeCount ∧ readTable table 1 = some modeSize ∧
    ∀ i < modeCount.toNat, (readTable table (2 + i * modeSize)).isSome ∧
      (readTable table (3 + i * modeSize)).isSome ∧ (readTable table (4 + i * modeSize)).isSome

theorem isSome_foldlM_iff {α β : Type} {f : β → α → Option β} {P : α → Prop}
    (h : ∀ b a, (f b a).isSome ↔ P a) (l : List α) (b : β) :
    (l.foldlM f b).isSome ↔ ∀ a ∈ l, P a := by
  induction l generalizing b with
  | nil => simp
  | cons a l ih =>
      rw [List.foldlM_cons, List.forall_mem_cons, ← h b a]
      cases f b a with
      | none => simp
      | some b' => simpa using ih b'

theorem selectStep_isSome_iff {table : List Int32} {modeSize width height fps : ℤ}
    (best : ℤ × ℤ) (i : ℕ) :
    (selectStep table modeSize width height fps best i).isSome ↔
      (readTable table (2 + i * modeSize)).isSome ∧
        (readTable table (3 + i * modeSize)).isSome ∧
          (readTable table (4 + i * modeSize)).isSome := by
  rw [selectStep]
  cases readTable table (2 + i * modeSize) <;> cases readTable table (3 + i * modeSize) <;> simp

theorem selectOperateMode_isSome_iff {table : List Int32} {mode : UInt32} {width height fps : ℤ} :
    (selectOperateMode table mode width height fps).isSome ↔ SensorModesPresent table := by
  rw [selectOperateMode, SensorModesPresent]
  cases hcount : readTable table 0 with
  | none => simp
  | some modeCount =>
      cases hsize : readTable table 1 with
      | none => simp
      | some modeSize =>
          simp only [Option.bind_some, Option.isSome_map, isSome_foldlM_iff selectStep_isSome_iff,
            List.mem_range, Option.some.injEq, exists_and_left, exists_eq_left']

/-! ## Which streams are looked up -/

/-- The members of the configuration whose streams the init function of a case looks up. -/
def checkedStreams (c : Config) : TestCase → List StreamInfo
  | .previewOnly => [c.previewStream]
  | .previewSnapshot => [c.previewStream, c.snapshotStream]
  | .previewVideo => [c.previewStream, c.videoStream]
  | .videoOnly => [c.videoStream]
  | .hal3TestVideo =>
      [c.previewStream, c.videoStream] ++
        if (videoModeOf c).value ≤ VideoMode.hfr60.value ∧ ¬ c.rawStreamEnable then
          [c.snapshotStream]
        else []
  | .hal3TestDepth => [c.depthStream]

/-- The streams that are configured without having been looked up: the snapshot stream is checked
only where it is the last of three, the raw and the second depth stream never. -/
def uncheckedStreams (d : Characteristics) (c : Config) : TestCase → List Camera3Stream
  | .hal3TestVideo =>
      if (videoModeOf c).value ≤ VideoMode.hfr60.value ∧ c.rawStreamEnable then
        [camera3Stream c.snapshotStream, rawSnapshotStream d c]
      else []
  | .hal3TestDepth => if c.depthIRBGEnabled then [camera3Stream c.depthIRBGStream] else []
  | _ => []

/-- A case selects a sensor mode. -/
def SelectsMode (c : Config) (tc : TestCase) : Prop :=
  (tc = .previewVideo ∨ tc = .videoOnly ∨ tc = .hal3TestVideo) ∧
    VideoMode.hfr60.value ≤ (videoModeOf c).value

/-- The init function of a case arrives at `config_streams`. -/
def ReachesConfigStreams (d : Characteristics) (c : Config) (tc : TestCase) : Prop :=
  (∀ s ∈ checkedStreams c tc, Supported d (camera3Stream s)) ∧
    (SelectsMode c tc → SensorModesPresent d.sensorModeTable)

/-- **Every configured stream was looked up, or is one of `uncheckedStreams`.** -/
theorem mem_preInitStream_iff {d : Characteristics} {c : Config} {tc : TestCase}
    {s : Camera3Stream} :
    s ∈ preInitStream d c tc ↔
      s ∈ (checkedStreams c tc).map camera3Stream ∨ s ∈ uncheckedStreams d c tc := by
  cases tc with
  | previewOnly | previewSnapshot | previewVideo | videoOnly =>
      simp [preInitStream, checkedStreams, uncheckedStreams]
  | hal3TestVideo =>
      simp only [preInitStream, checkedStreams, uncheckedStreams]
      by_cases hmode : (videoModeOf c).value ≤ VideoMode.hfr60.value <;>
        cases hraw : c.rawStreamEnable <;> simp [hmode, or_assoc]
  | hal3TestDepth =>
      cases hirbg : c.depthIRBGEnabled <;>
        simp [preInitStream, checkedStreams, uncheckedStreams, hirbg]

theorem checkStream_eq_ok_iff {d : Characteristics} {s : StreamInfo} {u : Unit} :
    checkStream d s = .ok u ↔ Supported d (camera3Stream s) := by
  rw [← getValidOutputStreams_isSome_iff, checkStream]
  have hs : threshold s = ⟨(camera3Stream s).width.toInt32, (camera3Stream s).height.toInt32,
      (camera3Stream s).format⟩ := by
    simp [threshold, camera3Stream]
  rw [hs]
  cases getValidOutputStreams d (some ⟨(camera3Stream s).width.toInt32,
    (camera3Stream s).height.toInt32, (camera3Stream s).format⟩) <;> simp

theorem preInitStream_ne_nil {d : Characteristics} {c : Config} {tc : TestCase} :
    preInitStream d c tc ≠ [] := by
  cases tc with
  | hal3TestVideo => rw [preInitStream]; split_ifs <;> simp
  | _ => simp [preInitStream]

theorem largestStream_isSome {streams : List Camera3Stream} (h : streams ≠ []) :
    (largestStream streams).isSome := by
  have hfold : ∀ (l : List Camera3Stream) (best : UInt32 × Option Camera3Stream),
      best.2.isSome →
      (l.foldl (fun (best : UInt32 × Option Camera3Stream) s =>
        if best.1 < s.width * s.height then (s.width * s.height, some s) else best)
        best).2.isSome := by
    intro l
    induction l with
    | nil => exact fun best hb => hb
    | cons s l ih =>
        intro best hb
        rw [List.foldl_cons]
        apply ih
        split_ifs
        · rfl
        · exact hb
  apply hfold
  simpa [List.isSome_head?] using h

theorem exists_videoOpMode_eq_ok_iff {d : Characteristics} {c : Config}
    {streams : List Camera3Stream} (hstreams : streams ≠ []) :
    (∃ mode, videoOpMode d c streams = .ok mode) ↔
      (VideoMode.hfr60.value ≤ (videoModeOf c).value → SensorModesPresent d.sensorModeTable) := by
  rw [videoOpMode]
  by_cases hmode : VideoMode.hfr60.value ≤ (videoModeOf c).value
  · have ⟨s, hs⟩ := Option.isSome_iff_exists.mp (largestStream_isSome hstreams)
    simp only [hmode, if_true, true_imp_iff, hs]
    rw [← @selectOperateMode_isSome_iff d.sensorModeTable constrainedHighSpeedMode
      s.width.toInt32.toInt s.height.toInt32.toInt c.fpsRange.2.toInt]
    cases selectOperateMode d.sensorModeTable constrainedHighSpeedMode s.width.toInt32.toInt
      s.height.toInt32.toInt c.fpsRange.2.toInt <;> simp
  · simp [hmode]

/-- The operation mode that the init function of a case passes. -/
def opModeOf (d : Characteristics) (c : Config) (tc : TestCase) : Except InitFailure UInt32 :=
  match tc with
  | .previewOnly | .previewSnapshot => .ok normalMode
  | .previewVideo | .videoOnly | .hal3TestVideo => videoOpMode d c (preInitStream d c tc)
  | .hal3TestDepth => .ok 0x1100000

/-- The snapshot stream of a video case is looked up where it is the last of three. -/
theorem length_preInitStream_hal3TestVideo {d : Characteristics} {c : Config} :
    ((preInitStream d c .hal3TestVideo).length = 3 ∧
        (videoModeOf c).value ≤ VideoMode.hfr60.value) ↔
      (videoModeOf c).value ≤ VideoMode.hfr60.value ∧ ¬ c.rawStreamEnable := by
  rw [and_comm, preInitStream]
  refine and_congr_right fun hmode => ?_
  cases hraw : c.rawStreamEnable <;> simp [hmode]

theorem initStreamsOf_eq_ok_iff {d : Characteristics} {c : Config} {tc : TestCase}
    {call : ConfigStreams} :
    initStreamsOf d c tc = .ok call ↔
      (∀ s ∈ checkedStreams c tc, Supported d (camera3Stream s)) ∧
        opModeOf d c tc = .ok call.opMode ∧ call.streams = preInitStream d c tc := by
  cases call with
  | mk streams opMode =>
  cases tc <;>
    simp only [initStreamsOf, initPreviewStream, initSnapshotStreams, initVideoStream,
      initVideoOnlyStream, initVideoStreams, initDepthStream, bind_eq_ok_iff, checkStream_eq_ok_iff,
      pure, Except.pure, Except.ok.injEq, ConfigStreams.mk.injEq, opModeOf, checkedStreams,
      eq_comm (a := streams), exists_const]
  case previewOnly | hal3TestDepth => simp [and_comm]
  case previewSnapshot | videoOnly => simp [and_assoc, and_comm]
  case previewVideo => simp [and_assoc, and_comm]
  case hal3TestVideo =>
      rw [if_congr length_preInitStream_hal3TestVideo rfl rfl]
      split_ifs with h
      · simp only [checkStream_eq_ok_iff, List.forall_mem_append, List.forall_mem_cons]
        simp
        tauto
      · simp [and_assoc, and_comm]

theorem exists_initStreamsOf_eq_ok_iff {d : Characteristics} {c : Config} {tc : TestCase} :
    (∃ call, initStreamsOf d c tc = .ok call) ↔ ReachesConfigStreams d c tc := by
  have hmode : (∃ mode, opModeOf d c tc = .ok mode) ↔
      (SelectsMode c tc → SensorModesPresent d.sensorModeTable) := by
    rw [SelectsMode]
    cases tc with
    | previewOnly | previewSnapshot | hal3TestDepth => simp [opModeOf]
    | previewVideo | videoOnly | hal3TestVideo =>
        simp [opModeOf, exists_videoOpMode_eq_ok_iff preInitStream_ne_nil]
  rw [ReachesConfigStreams, ← hmode]
  constructor
  · rintro ⟨call, h⟩
    have ⟨hsup, hop, _⟩ := initStreamsOf_eq_ok_iff.mp h
    exact ⟨hsup, call.opMode, hop⟩
  · rintro ⟨hsup, mode, hop⟩
    exact ⟨⟨preInitStream d c tc, mode⟩, initStreamsOf_eq_ok_iff.mpr ⟨hsup, hop, rfl⟩⟩

/-! ## Only supported streams -/

/-- Each stream that the init function of a case passes to `config_streams` occurs in the device's
table. -/
def OnlySupported (d : Characteristics) (c : Config) (tc : TestCase) : Prop :=
  ∀ call, initStreamsOf d c tc = .ok call → ∀ s ∈ call.streams, Supported d s

/-- **Only supported streams are configured**, if and only if the streams that are not looked up
are supported as well wherever the init function gets to `config_streams`. -/
theorem onlySupported_iff (d : Characteristics) (c : Config) (tc : TestCase) :
    OnlySupported d c tc ↔
      (ReachesConfigStreams d c tc → ∀ s ∈ uncheckedStreams d c tc, Supported d s) := by
  rw [OnlySupported, ← exists_initStreamsOf_eq_ok_iff]
  constructor
  · rintro h ⟨call, hcall⟩ s hs
    have ⟨_, _, hstreams⟩ := initStreamsOf_eq_ok_iff.mp hcall
    apply h call hcall s
    rw [hstreams]
    exact mem_preInitStream_iff.mpr (.inr hs)
  · intro h call hcall s hs
    have ⟨hsup, _, hstreams⟩ := initStreamsOf_eq_ok_iff.mp hcall
    rw [hstreams, mem_preInitStream_iff] at hs
    rcases hs with hs | hs
    · have ⟨i, hi, his⟩ := List.mem_map.mp hs
      rw [← his]
      exact hsup i hi
    · exact h ⟨call, hcall⟩ s hs

/-- The options `id=0,psize=640x480,pformat=yuv420,vsize=640x480,ssize=640x480,sformat=jpeg,`
`enableRawFormat=37,rawsize=4000x3000`. -/
def rawVideoOptions : CString :=
  "id=0,psize=640x480,pformat=yuv420,vsize=640x480,ssize=640x480,sformat=jpeg,enableRawFormat=37,rawsize=4000x3000".toList

/-- A device with one output, `640x480` in `HAL_PIXEL_FORMAT_YCBCR_420_888`, and one sensor mode. -/
def vgaCharacteristics : Characteristics where
  streamConfigurations := some [halPixelFormatYCbCr420888, 640, 480, configurationsOutput]
  sensorModeTable := [1, 3, 640, 480, 60]
  activeSensor := (640, 480)

/-- The configuration that `rawVideoOptions` gives. -/
def rawVideoConfig : Config where
  testMode := some .video
  cameraId := 0
  previewStream :=
    { type := some .preview, width := 640, height := 480, format := halPixelFormatYCbCr420888 }
  snapshotStream := { width := 640, height := 480, format := Int32.ofInt halPixelFormatBlob }
  videoStream := { width := 640, height := 480, format := halPixelFormatYCbCr420888 }
  rawStream := { width := 4000, height := 3000, format := halPixelFormatRaw10 }
  rawStreamEnable := true
  rawformat := halPixelFormatRaw10

theorem parse_rawVideoOptions :
    parseCommandlineAdd rawVideoOptions {} = .ok (0, rawVideoConfig) := by
  decide +kernel

/-- The raw stream of a video case is configured though the device has no such output. -/
theorem raw_stream_not_looked_up :
    parseCommandlineAdd rawVideoOptions {} = .ok (0, rawVideoConfig) ∧
      rawVideoConfig.testMode.map TestMode.testCase = some .hal3TestVideo ∧
      ¬ OnlySupported vgaCharacteristics rawVideoConfig .hal3TestVideo := by
  refine ⟨parse_rawVideoOptions, rfl, fun h => ?_⟩
  have hcall : initStreamsOf vgaCharacteristics rawVideoConfig .hal3TestVideo =
      .ok ⟨preInitStream vgaCharacteristics rawVideoConfig .hal3TestVideo,
        constrainedHighSpeedMode⟩ := by
    decide +kernel
  have hraw := h _ hcall ⟨4000, 3000, halPixelFormatRaw10⟩ (by decide +kernel)
  rw [← getValidOutputStreams_isSome_iff] at hraw
  revert hraw
  decide +kernel

end QCamx.Streams
