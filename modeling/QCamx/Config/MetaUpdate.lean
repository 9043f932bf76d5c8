import QCamx.Define
import QCamx.Lib.CString

/-!
# `parse_commandline_meta_update`

The options of the commands `U` and `E`: each handler converts its value with `sscanf` and updates
the metadata of the running case. A variable that `sscanf` does not set keeps its initial value,
if it has one.

* `MetaUpdate`: one call of `update`, with the tag and the data;
* `MetaSetup.readActiveSize`: the read of the active array through a copy that is gone;
* `zoomRegion`, `cropRegion`: the two handlers that write a crop region;
* `metaOption`: the handler of each option;
* `parseCommandlineMetaUpdate`: the loop; its return value is always `0`.
-/

namespace QCamx

open CString

/-! ## Faults -/

/-- Undefined behaviour of the parsers for metadata. -/
inductive MetaFault
  | nullValue | uninitialized | bufferOverflow | divisionByZero | signedOverflow | useAfterFree
  deriving DecidableEq, Repr

/-- The use of a variable. -/
def useVariable {α : Type*} : Option α → Except MetaFault α
  | some a => .ok a
  | none => .error .uninitialized

/-- The result of an `int` operation. -/
def checkedInt (z : ℤ) : Except MetaFault Int32 :=
  if FitsInt z then .ok (Int32.ofInt z) else .error .signedOverflow

theorem checkedInt_of_fits {z : ℤ} (h : FitsInt z) :
    ∃ n : Int32, checkedInt z = .ok n ∧ n.toInt = z := by
  refine ⟨Int32.ofInt z, if_pos h, ?_⟩
  obtain ⟨hlo, hhi⟩ := h
  exact Int32.toInt_ofInt_of_le hlo hhi

theorem checkedInt_of_not_fits {z : ℤ} (h : ¬ FitsInt z) : checkedInt z = .error .signedOverflow :=
  if_neg h

/-! ## Updates -/

/-- The tags that are updated; a vendor tag is found by its name. -/
inductive MetaTag
  | controlAeExposureCompensation | controlAeMode | sensorExposureTime | sensorSensitivity
  | controlAeAntibandingMode | controlAwbMode | controlAfMode | colorCorrectionMode | controlMode
  | controlEnableZsl | scalerCropRegion | jpegQuality
  | vendor (name : String)
  deriving DecidableEq, Repr

/-- The data of an entry, by its type; `F` is `float`. -/
inductive MetaData (F : Type)
  | byte (data : List UInt8)
  | int32 (data : List Int32)
  | int64 (data : List ℤ)
  | float (data : List F)
  deriving DecidableEq, Repr

/-- A call of `update`. -/
structure MetaUpdate (F : Type) where
  tag : MetaTag
  data : MetaData F
  deriving DecidableEq, Repr

/-- What the handlers take from elsewhere: arithmetic on `float`, and the members of the
configuration that `init` fills in. -/
structure MetaSetup (F : Type) where
  /-- `%f`: the number, and the text after it. -/
  scanFloat : CString → Option (F × CString)
  zero : F
  /-- `(int64_t)(x * 1000000L)`. -/
  expTimeNs : F → ℤ
  /-- `_ae_comp_range_min` and `_ae_comp_range_max`. -/
  aeCompRange : Int32 × Int32
  /-- The entry `ANDROID_SENSOR_INFO_ACTIVE_ARRAY_SIZE` of `_static_meta`. -/
  activeArraySize : List Int32
  /-- The width and the height that a handler reads, where so many suboptions are behind its own.
  The cast makes a copy of `_static_meta`, which is destroyed when `find` has returned: the memory
  that `data` points to may hold anything by then, and `none` is a read that does not return. -/
  copyReads : ℕ → Option (Int32 × Int32)

/-- The width and the height of the active array, from an entry of two or of four values. -/
def activeSize : List Int32 → Option (Int32 × Int32)
  | [width, height] | [_, _, width, height] => some (width, height)
  | _ => none

/-- The read of the active array by `zoom` and `cropregion`: `count` is of the entry itself, the
rest is behind `data`. -/
def MetaSetup.readActiveSize {F : Type} (m : MetaSetup F) (n : ℕ) :
    Except MetaFault (Option (Int32 × Int32)) :=
  match activeSize m.activeArraySize with
  | none => .ok none
  | some _ =>
      match m.copyReads n with
      | none => .error .useAfterFree
      | some size => .ok (some size)

/-- A setup for numbers without a fraction, with an active array of 4000 by 3000 that is still there
when it is read. -/
def wholeSetup : MetaSetup ℤ where
  scanFloat s := (scanInt s).map fun p => (p.1.toInt, p.2)
  zero := 0
  expTimeNs ms := ms * 1000000
  aeCompRange := (-12, 12)
  activeArraySize := [0, 0, 4000, 3000]
  copyReads _ := some (4000, 3000)

/-! ## Options -/

/-- The options of `parse_commandline_meta_update`. -/
inductive MetaOpt
  | manualExposure | manualIso | antbanding | manualSensitivity | manualAwbMode | manualWbMode
  | manualWbCct | manualWbGains | manualAfMode | manualAeMode | manualAeAntibandingMode
  | manualColorCorrectionMode | manualControlMode | manualZslMode | zoom | totalNumFrames
  | exposureMetering | selectPriority | expPriority | jpegQuality | cropRegion | compensationRatio
  | manualExposureComp
  deriving DecidableEq, Repr

/-- The array `token`. -/
def metaTokens : List (CString × MetaOpt) :=
  [("manual_exp".toList, .manualExposure), ("manual_iso".toList, .manualIso),
    ("antimode".toList, .antbanding), ("manualsens".toList, .manualSensitivity),
    ("manualawbmode".toList, .manualAwbMode), ("manualwb_mode".toList, .manualWbMode),
    ("manualwb_cct".toList, .manualWbCct), ("manualwb_gains".toList, .manualWbGains),
    ("manualafmode".toList, .manualAfMode), ("manualaemode".toList, .manualAeMode),
    ("manualantimode".toList, .manualAeAntibandingMode),
    ("manualcorcorrectionmode".toList, .manualColorCorrectionMode),
    ("manualctrmode".toList, .manualControlMode), ("manualzslmode".toList, .manualZslMode),
    ("zoom".toList, .zoom), ("numframes".toList, .totalNumFrames),
    ("expmetering".toList, .exposureMetering), ("selPriority".toList, .selectPriority),
    ("expPriority".toList, .expPriority), ("jpegquality".toList, .jpegQuality),
    ("cropregion".toList, .cropRegion), ("compensation_ratio".toList, .compensationRatio),
    ("manual_exp_comp".toList, .manualExposureComp)]

/-! ## Handlers -/

variable {F : Type}

/-- A handler that converts with `%c` into a variable that holds `init`, and updates a tag. -/
def charOption (init : Option UInt8) (tag : MetaTag) (value : CString) :
    Except MetaFault (List (MetaUpdate F)) :=
  (useVariable ((scanChar value).or init)).map fun c => [⟨tag, .byte [c]⟩]

/-- The variable of a `%d` that holds `init`. -/
def intVariable (init : Option Int32) (value : CString) : Except MetaFault Int32 :=
  useVariable (((scanInt value).map Prod.fst).or init)

/-- A handler that converts with `%d` into a variable that holds `init`, and updates a tag. -/
def intOption (init : Option Int32) (tag : MetaTag) (value : CString) :
    Except MetaFault (List (MetaUpdate F)) :=
  (intVariable init value).map fun n => [⟨tag, .int32 [n]⟩]

/-- `manual_exp_comp`. -/
def exposureCompOption (range : Int32 × Int32) (value : CString) :
    Except MetaFault (List (MetaUpdate F)) :=
  (intVariable (some 0) value).map fun n =>
    if range.1 ≤ n ∧ n ≤ range.2 then [⟨.controlAeExposureCompensation, .int32 [n]⟩] else []

/-- `manual_exp`. -/
def exposureOption (m : MetaSetup F) (value : CString) : Except MetaFault (List (MetaUpdate F)) :=
  (useVariable ((m.scanFloat value).map Prod.fst)).map fun ms =>
    [⟨.controlAeMode, .byte [0]⟩, ⟨.sensorExposureTime, .int64 [m.expTimeNs ms]⟩]

/-- `manual_iso`. -/
def isoOption (value : CString) : Except MetaFault (List (MetaUpdate F)) :=
  (intVariable none value).map fun iso =>
    [⟨.controlAeMode, .byte [0]⟩, ⟨.sensorSensitivity, .int32 [iso]⟩]

/-- The exposure time that `manualsens` sets with some sensitivities. -/
def sensitivityExposure (sensitivity : Int32) : Option ℤ :=
  if sensitivity = 100 then some 10000000
  else if sensitivity = 200 then some 20000000
  else if sensitivity = 400 then some 40000000
  else if sensitivity = 800 then some 60000000
  else if sensitivity = 1600 then some 80000000
  else none

/-- `manualsens`. -/
def sensitivityOption (value : CString) : Except MetaFault (List (MetaUpdate F)) :=
  (intVariable (some 0) value).map fun n =>
    ⟨.sensorSensitivity, .int32 [n]⟩ ::
      ((sensitivityExposure n).map fun t => ⟨.sensorExposureTime, .int64 [t]⟩).toList

/-- `manualwb_gains`: all three elements of the array are read. -/
def gainsOption (m : MetaSetup F) (value : CString) : Except MetaFault (List (MetaUpdate F)) :=
  let gains := scanMany m.scanFloat '-' 3 value
  if gains.length = 3 then
    .ok [⟨.vendor "org.codeaurora.qcamera3.manualWB.gains", .float gains⟩]
  else .error .uninitialized

/-- `expPriority`. -/
def expPriorityOption (value : CString) : Except MetaFault (List (MetaUpdate F)) :=
  .ok [⟨.vendor "org.codeaurora.qcamera3.iso_exp_priority.use_iso_exp_priority",
    .int64 [(scanLong value).getD 0]⟩]

/-- `compensation_ratio`. -/
def ratioOption (m : MetaSetup F) (value : CString) : Except MetaFault (List (MetaUpdate F)) :=
  .ok [⟨.vendor "org.codeaurora.qcamera3.compensation_ratio.ratio",
    .float [((m.scanFloat value).map Prod.fst).getD m.zero]⟩]

/-! ## Crop regions -/

/-- A crop region `[x, y, width, height]`. -/
@[ext] structure Region where
  x : Int32
  y : Int32
  width : Int32
  height : Int32
  deriving DecidableEq, Repr

/-- The update of `ANDROID_SCALER_CROP_REGION`. -/
def Region.update (r : Region) : MetaUpdate F :=
  ⟨.scalerCropRegion, .int32 [r.x, r.y, r.width, r.height]⟩

/-- The division of two `int`s. -/
def divideInt (a b : Int32) : Except MetaFault Int32 :=
  if b = 0 then .error .divisionByZero else checkedInt (a.toInt.tdiv b.toInt)

/-- The region of `zoom`, for an active array of `activeWidth` by `activeHeight`. -/
def zoomRegion (activeWidth activeHeight zoom : Int32) : Except MetaFault Region := do
  let dstWidth ← divideInt activeWidth zoom
  let dstHeight ← divideInt activeHeight zoom
  let marginWidth ← checkedInt (activeWidth.toInt - dstWidth.toInt)
  let x ← divideInt marginWidth 2
  let marginHeight ← checkedInt (activeHeight.toInt - dstHeight.toInt)
  let y ← divideInt marginHeight 2
  return ⟨x, y, dstWidth, dstHeight⟩

/-- The region of `cropregion`, unless it is refused; the sums are made one after the other. -/
def cropRegion (activeWidth activeHeight : Int32) (r : Region) :
    Except MetaFault (Option Region) :=
  if r.x < 0 ∨ r.y < 0 ∨ r.width < 0 ∨ r.height < 0 then .ok none
  else do
    let right ← checkedInt (r.x.toInt + r.width.toInt)
    if activeWidth < right then return none
    let bottom ← checkedInt (r.y.toInt + r.height.toInt)
    if activeHeight < bottom then return none
    return some r

/-- `zoom`. -/
def zoomOption (m : MetaSetup F) (n : ℕ) (value : CString) :
    Except MetaFault (List (MetaUpdate F)) :=
  match m.readActiveSize n with
  | .error f => .error f
  | .ok none => .ok []
  | .ok (some (width, height)) => do
      let zoom ← intVariable none value
      let region ← zoomRegion width height zoom
      return [region.update]

/-- `cropregion`. -/
def cropRegionOption (m : MetaSetup F) (n : ℕ) (value : CString) :
    Except MetaFault (List (MetaUpdate F)) :=
  match m.readActiveSize n with
  | .error f => .error f
  | .ok none => .ok []
  | .ok (some (activeWidth, activeHeight)) =>
      match scanMany scanInt 'x' 4 value with
      | [x, y, width, height] =>
          (cropRegion activeWidth activeHeight ⟨x, y, width, height⟩).map fun r =>
            (r.map Region.update).toList
      | _ => .error .uninitialized

/-! ## The parse -/

/-- The handler of an option, applied to its value, with `n` suboptions behind this one. -/
def metaOption (m : MetaSetup F) (n : ℕ) (opt : MetaOpt) (value : CString) :
    Except MetaFault (List (MetaUpdate F)) :=
  match opt with
  | .manualExposure => exposureOption m value
  | .manualIso => isoOption value
  | .antbanding => charOption none .controlAeAntibandingMode value
  | .manualSensitivity => sensitivityOption value
  | .manualAwbMode => charOption none .controlAwbMode value
  | .manualWbMode =>
      intOption none (.vendor "org.codeaurora.qcamera3.manualWB.partial_mwb_mode") value
  | .manualWbCct =>
      intOption none (.vendor "org.codeaurora.qcamera3.manualWB.color_temperature") value
  | .manualWbGains => gainsOption m value
  | .manualAfMode => charOption none .controlAfMode value
  | .manualAeMode => charOption (some 0) .controlAeMode value
  | .manualAeAntibandingMode => charOption none .controlAeAntibandingMode value
  | .manualColorCorrectionMode => charOption none .colorCorrectionMode value
  | .manualControlMode => charOption none .controlMode value
  | .manualZslMode => charOption none .controlEnableZsl value
  | .zoom => zoomOption m n value
  | .totalNumFrames =>
      intOption (some 0) (.vendor "org.quic.camera2.mfnrconfigs.MFNRTotalNumFrames") value
  | .exposureMetering =>
      intOption (some 0)
        (.vendor "org.codeaurora.qcamera3.exposure_metering.exposure_metering_mode") value
  | .selectPriority =>
      intOption (some 0) (.vendor "org.codeaurora.qcamera3.iso_exp_priority.select_priority") value
  | .expPriority => expPriorityOption value
  | .jpegQuality => charOption (some 0) .jpegQuality value
  | .cropRegion => cropRegionOption m n value
  | .compensationRatio => ratioOption m value
  | .manualExposureComp => exposureCompOption m.aeCompRange value

/-- One round of the loop, on the next suboption, with `n` behind it. -/
def metaStep (m : MetaSetup F) (n : ℕ) (s : CString) : Except MetaFault (List (MetaUpdate F)) :=
  match getsubopt metaTokens s with
  | (none, _) => .ok []
  | (some _, none) => .error .nullValue
  | (some opt, some value) => metaOption m n opt value

/-- The loop: the updates it makes, in their order, and the fault that ends it, if one does. -/
def metaLoop (m : MetaSetup F) : List CString → List (MetaUpdate F) × Option MetaFault
  | [] => ([], none)
  | s :: ss =>
      match metaStep m ss.length s with
      | .ok updates => (updates ++ (metaLoop m ss).1, (metaLoop m ss).2)
      | .error fault => ([], some fault)

/-- `parse_commandline_meta_update`. -/
def parseCommandlineMetaUpdate (m : MetaSetup F) (order : CString) :
    List (MetaUpdate F) × Option MetaFault :=
  metaLoop m (suboptions order)

end QCamx
