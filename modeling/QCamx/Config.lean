import QCamx.Case
import QCamx.Lib.CString

/-!
# The configuration of a camera

`QCamxConfig` as its constructor leaves it, and `parse_commandline_add`, which reads the options of
the commands `A` and `v` into it one by one.

* `Config`: the members that the options set;
* `addOption`: the handler of each option; a handler that reads an absent value, or a variable that
  nothing has set, is a `ParseFault`;
* `parseCommandlineAdd`: the loop, the test mode, and the return value.
-/

namespace QCamx

open CString

/-! ## Formats and modes -/

/-- `HAL_PIXEL_FORMAT_RAW16`. -/
def halPixelFormatRaw16 : Int32 := 32

/-- `HAL_PIXEL_FORMAT_IMPLEMENTATION_DEFINED`. -/
def halPixelFormatImplementationDefined : Int32 := 34

/-- `HAL_PIXEL_FORMAT_YCBCR_420_888`. -/
def halPixelFormatYCbCr420888 : Int32 := 35

/-- `HAL_PIXEL_FORMAT_RAW10`. -/
def halPixelFormatRaw10 : Int32 := 37

/-- `HAL_PIXEL_FORMAT_RAW12`. -/
def halPixelFormatRaw12 : Int32 := 38

/-- `HAL_PIXEL_FORMAT_Y16`. -/
def halPixelFormatY16 : Int32 := 0x20363159

/-- The values of `_test_mode` after a successful parse. -/
inductive TestMode
  | preview | snapshot | video | videoOnly | previewVideoOnly | depth
  deriving DecidableEq, Repr

/-- The bit of a test mode in `mode_config`, its `TESTMODE_` number. -/
def TestMode.bit : TestMode → ℕ
  | preview => 0
  | snapshot => 1
  | video => 2
  | videoOnly => 3
  | previewVideoOnly => 4
  | depth => 5

/-- The case that command `A` constructs for a test mode. -/
def TestMode.testCase : TestMode → TestCase
  | preview => .previewOnly
  | snapshot => .previewSnapshot
  | video => .hal3TestVideo
  | videoOnly => .videoOnly
  | previewVideoOnly => .previewVideo
  | depth => .hal3TestDepth

/-! ## Members -/

/-- `stream_info_t`; a `type` that is not set is `0`. -/
structure StreamInfo where
  type : Option Template := none
  width : Int32 := 0
  height : Int32 := 0
  format : Int32 := 0
  subformat : Implsubformat := .none
  deriving DecidableEq, Repr

/-- `video_bitrate_config_t`. -/
structure VideoBitrateConfig where
  bitrate : UInt32 := 0
  targetBitrate : UInt32 := 0
  isBitrateConstant : Bool := false
  deriving DecidableEq, Repr

/-- The members of `QCamxConfig` that `parse_commandline_add` sets, as the constructor leaves them.
`_rawformat` has no initial value, and is read only where `_raw_stream_enable` is set. -/
structure Config where
  testMode : Option TestMode := none
  cameraId : Int32 := -1
  isH265 : Int32 := 0
  previewStream : StreamInfo := {}
  snapshotStream : StreamInfo := {}
  videoStream : StreamInfo := {}
  rawStream : StreamInfo := {}
  depthStream : StreamInfo := {}
  depthIRBGStream : StreamInfo := {}
  videoRateConfig : VideoBitrateConfig := {}
  zslEnabled : Bool := true
  depthIRBGEnabled : Bool := false
  showFps : Int32 := 0
  fpsRange : Int32 × Int32 := (60, 60)
  rangeMode : Int32 := -1
  imageType : Int32 := -1
  rawStreamEnable : Bool := false
  rawformat : Int32 := 0
  forceOpmode : UInt32 := 0
  heicSnapshot : Bool := false
  deriving DecidableEq, Repr

/-- What the test cases read of the configuration. -/
def Config.toQCamxConfig (enableVideoEncoder : Bool) (c : Config) : QCamxConfig where
  enableVideoEncoder := enableVideoEncoder
  previewType := c.previewStream.type.getD .preview
  previewSubformat := c.previewStream.subformat
  videoSubformat := c.videoStream.subformat
  snapshotFormat := c.snapshotStream.format.toInt
  snapshotSubformat := c.snapshotStream.subformat
  rawStreamEnable := c.rawStreamEnable
  depthIRBGEnabled := c.depthIRBGEnabled
  showFps := c.showFps ≠ 0
  fpsRangeMax := c.fpsRange.2.toInt

/-! ## Options -/

/-- The options of `parse_commandline_add`. -/
inductive AddOpt
  | id | previewSize | previewFormat | snapshotSize | snapshotFormat | zslMode | videoSize
  | videoFormat | fpsRange | codecType | bitrate | isBitrateConst | targetBitrate
  | enableRawStream | rawSize | tofRangeMode | tofImageType | tofDepthSize | tofIrSize
  | tofDepthFormat | resultFile | logFile | forceOpmode | showFps
  deriving DecidableEq, Repr

/-- The array `token`. -/
def addTokens : List (CString × AddOpt) :=
  [("id".toList, .id), ("psize".toList, .previewSize), ("pformat".toList, .previewFormat),
    ("ssize".toList, .snapshotSize), ("sformat".toList, .snapshotFormat), ("zsl".toList, .zslMode),
    ("vsize".toList, .videoSize), ("vformat".toList, .videoFormat),
    ("fpsrange".toList, .fpsRange), ("codectype".toList, .codecType),
    ("bitrate".toList, .bitrate), ("isbitrateconst".toList, .isBitrateConst),
    ("targetbitrate".toList, .targetBitrate), ("enableRawFormat".toList, .enableRawStream),
    ("rawsize".toList, .rawSize), ("tofmode".toList, .tofRangeMode),
    ("tofimageype".toList, .tofImageType), ("tofdepthsize".toList, .tofDepthSize),
    ("tofirsize".toList, .tofIrSize), ("tofdepthformat".toList, .tofDepthFormat),
    ("resultfile".toList, .resultFile), ("logfile".toList, .logFile),
    ("forceopmode".toList, .forceOpmode), ("showfps".toList, .showFps)]

/-- Undefined behaviour of a handler. -/
inductive ParseFault
  | nullValue | uninitialized
  deriving DecidableEq, Repr

/-- The configuration and the local variables of the parse. -/
structure AddState where
  config : Config
  width : Option Int32 := none
  height : Option Int32 := none
  modeConfig : ℕ := 0
  errFound : Bool := false
  deriving DecidableEq, Repr

/-! ## Handlers -/

/-- `pformat`. -/
def previewFormat (value : CString) (s : StreamInfo) : StreamInfo :=
  let s := { s with type := some .preview }
  if value = "yuv420".toList then { s with format := halPixelFormatYCbCr420888 }
  else if value = "yuv_ubwc".toList then
    { s with format := halPixelFormatImplementationDefined, subformat := .ubwcNV12 }
  else if value = "yuv_ubwc_enc".toList then
    { s with
      format := halPixelFormatImplementationDefined
      type := some .videoRecord
      subformat := .ubwcNV12 }
  else if value = "raw10".toList then { s with format := halPixelFormatRaw10 }
  else if value = "raw12".toList then { s with format := halPixelFormatRaw12 }
  else if value = "raw16".toList then { s with format := halPixelFormatRaw16 }
  else if value = "y16".toList then { s with format := halPixelFormatY16 }
  else s

/-- `sformat`. -/
def snapshotFormat (value : CString) (c : Config) : Config :=
  let s := c.snapshotStream
  if value = "yuv420".toList then
    { c with snapshotStream := { s with format := halPixelFormatYCbCr420888 } }
  else if value = "heic".toList then
    { c with
      snapshotStream :=
        { s with format := halPixelFormatImplementationDefined, subformat := .yuv420NV12 }
      heicSnapshot := true }
  else if value = "jpeg".toList then
    { c with snapshotStream := { s with format := Int32.ofInt halPixelFormatBlob } }
  else if value = "raw10".toList then
    { c with snapshotStream := { s with format := halPixelFormatRaw10 } }
  else if value = "raw12".toList then
    { c with snapshotStream := { s with format := halPixelFormatRaw12 } }
  else if value = "raw16".toList then
    { c with snapshotStream := { s with format := halPixelFormatRaw16 } }
  else c

/-- `vformat`. -/
def videoFormat (value : CString) (s : StreamInfo) : StreamInfo :=
  let s := { s with type := some .videoRecord }
  if value = "yuv420".toList then { s with format := halPixelFormatYCbCr420888 }
  else if value = "yuv_ubwc".toList then
    { s with format := halPixelFormatImplementationDefined, subformat := .ubwcNV12 }
  else if value = "ubwctp10".toList then
    { s with format := halPixelFormatImplementationDefined, subformat := .ubwcTP10 }
  else if value = "p010".toList then
    { s with format := halPixelFormatImplementationDefined, subformat := .p010 }
  else if value = "yuv_ubwc_enc".toList then
    { s with
      format := halPixelFormatImplementationDefined
      type := some .videoRecord
      subformat := .ubwcNV12 }
  else if value = "raw10".toList then { s with format := halPixelFormatRaw10 }
  else if value = "raw12".toList then { s with format := halPixelFormatRaw12 }
  else if value = "raw16".toList then { s with format := halPixelFormatRaw16 }
  else if value = "y16".toList then { s with format := halPixelFormatY16 }
  else s

/-- `tofdepthformat`. -/
def tofDepthFormat (value : CString) (c : Config) : Config :=
  let set (format : Int32) : Config :=
    { c with
      depthStream := { c.depthStream with format := format }
      depthIRBGStream := { c.depthIRBGStream with format := format } }
  if value = "raw10".toList then set halPixelFormatRaw10
  else if value = "raw12".toList then set halPixelFormatRaw12
  else if value = "raw16".toList then set halPixelFormatRaw16
  else c

/-- A size option: `sscanf(value, "%dx%d", &width, &height)`, and the variables handed on to
`store`. The variables keep the values of an earlier size option that are not overwritten. -/
def sizeOption (value : CString) (store : Int32 → Int32 → Config → Config) (mode : ℕ)
    (st : AddState) : Except ParseFault AddState :=
  match scanPair 'x' value (st.width, st.height) with
  | (some width, some height) =>
      .ok { st with
        config := store width height st.config
        width := some width
        height := some height
        modeConfig := st.modeConfig ||| mode }
  | _ => .error .uninitialized

/-- `fpsrange`; the array is a local variable of the handler. -/
def fpsRangeOption (value : CString) (st : AddState) : Except ParseFault AddState :=
  match scanPair '-' value (none, none) with
  | (some a, some b) =>
      .ok { st with config := { st.config with fpsRange := if b < a then (b, a) else (a, b) } }
  | _ => .error .uninitialized

/-- The handler of an option, applied to its value. -/
def addOption (opt : AddOpt) (value : CString) (st : AddState) : Except ParseFault AddState :=
  let c := st.config
  match opt with
  | .id => .ok { st with config := { c with cameraId := atoi value } }
  | .previewSize =>
      sizeOption value (fun width height c =>
        { c with previewStream := { c.previewStream with width := width, height := height } })
        (1 <<< TestMode.preview.bit) st
  | .previewFormat =>
      .ok { st with config := { c with previewStream := previewFormat value c.previewStream } }
  | .snapshotSize =>
      sizeOption value (fun width height c =>
        { c with snapshotStream := { c.snapshotStream with width := width, height := height } })
        (1 <<< TestMode.snapshot.bit) st
  | .snapshotFormat => .ok { st with config := snapshotFormat value c }
  | .zslMode => .ok { st with config := { c with zslEnabled := atoi value ≠ 0 } }
  | .videoSize =>
      sizeOption value (fun width height c =>
        { c with videoStream :=
          { c.videoStream with
            width := width
            height := height
            format := halPixelFormatYCbCr420888 } })
        (1 <<< TestMode.video.bit) st
  | .videoFormat =>
      .ok { st with config := { c with videoStream := videoFormat value c.videoStream } }
  | .fpsRange => fpsRangeOption value st
  | .codecType => .ok { st with config := { c with isH265 := atoi value } }
  | .bitrate =>
      let bitrate := (scanUInt value).getD 0
      .ok { st with config := { c with videoRateConfig :=
        { c.videoRateConfig with bitrate := bitrate * 1024 * 1024 } } }
  | .isBitrateConst =>
      if atoi value = 1 then
        .ok { st with config := { c with videoRateConfig :=
          { c.videoRateConfig with isBitrateConstant := true } } }
      else .ok st
  | .targetBitrate =>
      let targetBitrate := (scanUInt value).getD 0
      .ok { st with config := { c with videoRateConfig :=
        { c.videoRateConfig with targetBitrate := targetBitrate * 1024 * 1024 } } }
  | .enableRawStream =>
      let format := (scanUInt value).getD 0
      if format = halPixelFormatRaw16.toUInt32 ∨ format = halPixelFormatRaw12.toUInt32 ∨
          format = halPixelFormatRaw10.toUInt32 then
        .ok { st with config := { c with rawStreamEnable := true, rawformat := format.toInt32 } }
      else .ok { st with errFound := true }
  | .rawSize =>
      sizeOption value (fun width height c =>
        { c with rawStream :=
          { c.rawStream with width := width, height := height, format := halPixelFormatRaw10 } })
        0 st
  | .tofRangeMode =>
      let mode := atoi value
      if mode = 0 ∨ mode = 1 then .ok { st with config := { c with rangeMode := mode } }
      else .ok { st with errFound := true }
  | .tofImageType =>
      let type := atoi value
      if 0 ≤ type ∧ type ≤ 4 then .ok { st with config := { c with imageType := type } }
      else .ok { st with errFound := true }
  | .tofDepthSize =>
      sizeOption value (fun width height c =>
        { c with depthStream := { c.depthStream with width := width, height := height } })
        (1 <<< TestMode.depth.bit) st
  | .tofIrSize =>
      sizeOption value (fun width height c =>
        { c with
          depthIRBGStream := { c.depthIRBGStream with width := width, height := height }
          depthIRBGEnabled := true })
        (1 <<< TestMode.depth.bit) st
  | .tofDepthFormat => .ok { st with config := tofDepthFormat value c }
  | .resultFile | .logFile => .ok st
  | .forceOpmode =>
      .ok { st with config := { c with forceOpmode := (scanUInt value).getD c.forceOpmode } }
  | .showFps =>
      .ok { st with config := { c with showFps := ((scanInt value).map Prod.fst).getD 0 } }

/-! ## The parse -/

/-- One round of the loop, on the next suboption. -/
def addStep (s : CString) (st : AddState) : Except ParseFault AddState :=
  match getsubopt addTokens s with
  | (none, _) => .ok st
  | (some _, none) => .error .nullValue
  | (some opt, some value) => addOption opt value st

/-- The loop: it ends with the string or at an error. -/
def addLoop : List CString → AddState → Except ParseFault AddState
  | [], st => .ok st
  | s :: ss, st => if st.errFound then .ok st else (addStep s st).bind (addLoop ss)

/-- The test mode that the size options name. -/
def testModeOf (modeConfig : ℕ) : Option TestMode :=
  if modeConfig = 1 <<< TestMode.preview.bit then some .preview
  else if modeConfig = 1 <<< TestMode.preview.bit ||| 1 <<< TestMode.snapshot.bit then
    some .snapshot
  else if modeConfig = 1 <<< TestMode.preview.bit ||| 1 <<< TestMode.video.bit then
    some .previewVideoOnly
  else if modeConfig =
      1 <<< TestMode.preview.bit ||| 1 <<< TestMode.snapshot.bit ||| 1 <<< TestMode.video.bit then
    some .video
  else if modeConfig = 1 <<< TestMode.video.bit then some .videoOnly
  else if modeConfig = 1 <<< TestMode.depth.bit then some .depth
  else none

/-- `parse_commandline_add`: the return value and the configuration it leaves. -/
def parseCommandlineAdd (order : CString) (c : Config) : Except ParseFault (ℤ × Config) :=
  (addLoop (suboptions order) { config := c }).map fun st =>
    match testModeOf st.modeConfig with
    | some mode => (if st.errFound then -1 else 0, { st.config with testMode := some mode })
    | none => (-1, st.config)

end QCamx
