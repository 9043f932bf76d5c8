import QCamx.Config.MetaUpdate

/-!
# `parse_commandline_meta_dump`

The options of the command `M`. All but one convert their value with `atoi` and store it in a member
of `_meta_dump`; `filepath` copies a word of its value into an array of 200 characters and hands it
to the log.

* `MetaDump`, `DumpLog`: the two objects that the options change;
* `dumpOption`: the handler of each option;
* `parseCommandlineMetaDump`: the loop; its return value is always `0`.
-/

namespace QCamx

open CString

/-! ## The members -/

/-- `meta_dump_t`, as the constructor of the configuration leaves it. -/
structure MetaDump where
  exposureValue : Int32 := 0
  isoValue : Int32 := 0
  aeMode : Int32 := 0
  awbMode : Int32 := 0
  afMode : Int32 := 0
  afValue : Int32 := 0
  aeAntiMode : Int32 := 0
  colorCorrectMode : Int32 := 0
  colorCorrectValue : Int32 := 0
  controlMode : Int32 := 0
  sceneMode : Int32 := 0
  hdrMode : Int32 := 0
  zoomValue : Int32 := 0
  zslMode : Int32 := 0
  numFrames : Int32 := 0
  expMetering : Int32 := 0
  selPriority : Int32 := 0
  expPriority : Int32 := 0
  jpegquality : Int32 := 0
  showCropRegion : Int32 := 0
  rawsize : Int32 := 0
  deriving DecidableEq, Repr

/-- `LogType`. -/
inductive LogType
  | stdio | aloge | file
  deriving DecidableEq, Repr

/-- The members of `QCamxLog` that `set_path` changes. -/
structure DumpLog where
  logType : LogType := .file
  path : CString := "/data/misc/camera/test1.log".toList
  isNewPath : Bool := true
  deriving DecidableEq, Repr

/-- `set_path`. -/
def DumpLog.setPath (log : DumpLog) (logPath : CString) : DumpLog :=
  if logPath = "std".toList then { log with logType := .stdio }
  else if logPath = "ALOGE".toList then { log with logType := .aloge }
  else if logPath ≠ log.path then
    { log with logType := .file, isNewPath := true, path := logPath }
  else { log with logType := .file }

/-- `_meta_dump` and `_dump_log`. -/
structure DumpState where
  metaDump : MetaDump := {}
  dumpLog : DumpLog := {}
  deriving DecidableEq, Repr

/-! ## Options -/

/-- The options of `parse_commandline_meta_dump`. -/
inductive DumpOpt
  | exposureValue | isoValue | aeMode | awbMode | afMode | afValue | aeAntibandingMode
  | colorCorrectionMode | colorCorrectionValue | controlMode | sceneMode | hdrMode | zoomValue
  | zslMode | totalNumFrames | exposureMetering | selectPriority | expPriority | jpegQuality
  | resultFilePath | showCropRegion | rawSize
  deriving DecidableEq, Repr

/-- The array `token`. -/
def dumpTokens : List (CString × DumpOpt) :=
  [("expvalue".toList, .exposureValue), ("isovalue".toList, .isoValue),
    ("aemode".toList, .aeMode), ("awbmode".toList, .awbMode), ("afmode".toList, .afMode),
    ("afvalue".toList, .afValue), ("ae_antimode".toList, .aeAntibandingMode),
    ("color_correctmode".toList, .colorCorrectionMode),
    ("color_correctvalue".toList, .colorCorrectionValue), ("controlmode".toList, .controlMode),
    ("scenemode".toList, .sceneMode), ("hdrmode".toList, .hdrMode),
    ("zoomvalue".toList, .zoomValue), ("zslmode".toList, .zslMode),
    ("numframes".toList, .totalNumFrames), ("expmetering".toList, .exposureMetering),
    ("selPriority".toList, .selectPriority), ("expPriority".toList, .expPriority),
    ("jpegquality".toList, .jpegQuality), ("filepath".toList, .resultFilePath),
    ("showcropregion".toList, .showCropRegion), ("rawsize".toList, .rawSize)]

/-- The size of the array `file_path`. -/
def filePathSize : ℕ := 200

/-- `%s` into an array of `size` zeros: the word and its NUL have to fit. -/
def storeWord (size : ℕ) (value : CString) : Except MetaFault CString :=
  let word := (scanWord value).getD []
  if word.length < size then .ok word else .error .bufferOverflow

/-- The handler of an option, applied to its value. -/
def dumpOption (opt : DumpOpt) (value : CString) (st : DumpState) : Except MetaFault DumpState :=
  let d := st.metaDump
  match opt with
  | .exposureValue => .ok { st with metaDump := { d with exposureValue := atoi value } }
  | .isoValue => .ok { st with metaDump := { d with isoValue := atoi value } }
  | .aeMode => .ok { st with metaDump := { d with aeMode := atoi value } }
  | .awbMode => .ok { st with metaDump := { d with awbMode := atoi value } }
  | .afMode => .ok { st with metaDump := { d with afMode := atoi value } }
  | .afValue => .ok { st with metaDump := { d with afValue := atoi value } }
  | .aeAntibandingMode => .ok { st with metaDump := { d with aeAntiMode := atoi value } }
  | .colorCorrectionMode => .ok { st with metaDump := { d with colorCorrectMode := atoi value } }
  | .colorCorrectionValue => .ok { st with metaDump := { d with colorCorrectValue := atoi value } }
  | .controlMode => .ok { st with metaDump := { d with controlMode := atoi value } }
  | .sceneMode => .ok { st with metaDump := { d with sceneMode := atoi value } }
  | .hdrMode => .ok { st with metaDump := { d with hdrMode := atoi value } }
  | .zoomValue => .ok { st with metaDump := { d with zoomValue := atoi value } }
  | .zslMode => .ok { st with metaDump := { d with zslMode := atoi value } }
  | .totalNumFrames => .ok { st with metaDump := { d with numFrames := atoi value } }
  | .exposureMetering => .ok { st with metaDump := { d with expMetering := atoi value } }
  | .selectPriority => .ok { st with metaDump := { d with selPriority := atoi value } }
  | .expPriority => .ok { st with metaDump := { d with expPriority := atoi value } }
  | .jpegQuality => .ok { st with metaDump := { d with jpegquality := atoi value } }
  | .resultFilePath =>
      (storeWord filePathSize value).map fun path =>
        { st with dumpLog := st.dumpLog.setPath path }
  | .showCropRegion => .ok { st with metaDump := { d with showCropRegion := atoi value } }
  | .rawSize => .ok { st with metaDump := { d with rawsize := atoi value } }

/-! ## The parse -/

/-- One round of the loop, on the next suboption. -/
def dumpStep (s : CString) (st : DumpState) : Except MetaFault DumpState :=
  match getsubopt dumpTokens s with
  | (none, _) => .ok st
  | (some _, none) => .error .nullValue
  | (some opt, some value) => dumpOption opt value st

/-- The loop. -/
def dumpLoop : List CString → DumpState → Except MetaFault DumpState
  | [], st => .ok st
  | s :: ss, st => (dumpStep s st).bind (dumpLoop ss)

/-- `parse_commandline_meta_dump`. -/
def parseCommandlineMetaDump (order : CString) (st : DumpState) : Except MetaFault DumpState :=
  dumpLoop (suboptions order) st

end QCamx
