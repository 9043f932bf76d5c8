import QCamx.Define

/-!
# The six test cases: stream set-up, start and capture commands

What the init function of a case leaves in the device (the stream table and the sync-buffer
mode), the `CameraThreadData` its `run` builds, and the message its `request_capture` posts.

* `initStreams`: the six init functions, after their streams were found supported;
* `runRequestThread`, `livingRequestExtAppend`: the start of each case;
* `requestCapture`: `none` for the cases that ignore the command.
-/

namespace QCamx

/-- The subclasses of `QCamxCase`. -/
inductive TestCase
  | previewOnly | previewSnapshot | previewVideo | videoOnly | hal3TestVideo | hal3TestDepth
  deriving DecidableEq, Repr

/-- The members of `QCamxConfig` that the modelled functions read, and the build's
`ENABLE_VIDEO_ENCODER`. -/
structure QCamxConfig where
  enableVideoEncoder : Bool := false
  previewType : Template := .preview
  previewSubformat : Implsubformat := .none
  videoSubformat : Implsubformat := .none
  snapshotFormat : ℤ := halPixelFormatBlob
  snapshotSubformat : Implsubformat := .none
  rawStreamEnable : Bool := false
  depthIRBGEnabled : Bool := false
  showFps : Bool := false
  fpsRangeMax : ℤ := 60
  deriving DecidableEq, Repr

/-! ## Stream set-up -/

/-- `CameraStream`: `stream_type` is unset until its default settings are constructed. -/
structure CameraStream where
  streamId : ℕ
  streamType : Option Template
  deriving DecidableEq, Repr

/-- The stream table `config_streams` leaves for `n` streams. -/
def configStreams (n : ℕ) : List CameraStream := (List.range n).map fun i => ⟨i, none⟩

/-- The part of `construct_default_request_settings` that concerns the stream table. -/
def constructDefaultRequestSettings (index : ℕ) (type : Template) (streams : List CameraStream) :
    List CameraStream :=
  streams.modify index fun s => { s with streamType := some type }

/-- The `_video_mode` that the `pre_init_stream` of the video cases derives from the frame rate. -/
def videoMode (c : QCamxConfig) : VideoMode :=
  if 30 < c.fpsRangeMax ∧ c.fpsRangeMax ≤ 60 then .hfr60
  else if 60 < c.fpsRangeMax ∧ c.fpsRangeMax ≤ 90 then .hfr90
  else if 90 < c.fpsRangeMax ∧ c.fpsRangeMax ≤ 120 then .hfr120
  else if 120 < c.fpsRangeMax ∧ c.fpsRangeMax ≤ 240 then .hfr240
  else if 240 < c.fpsRangeMax ∧ c.fpsRangeMax ≤ 480 then .hfr480
  else .normal

/-- What an init function leaves in the device. -/
structure InitResult where
  syncBufferMode : SyncBufferMode
  cameraStreams : List CameraStream
  deriving DecidableEq, Repr

/-- `QCamxPreviewOnlyCase::init_preview_stream`. -/
def initPreviewStream : InitResult where
  syncBufferMode := .internal
  cameraStreams := constructDefaultRequestSettings 0 .preview (configStreams 1)

/-- `QCamxPreviewSnapshotCase::init_snapshot_streams`. -/
def initSnapshotStreams : InitResult where
  syncBufferMode := .internal
  cameraStreams := constructDefaultRequestSettings 1 .stillCapture
    (constructDefaultRequestSettings 0 .preview (configStreams 2))

/-- `QCamxPreviewVideoCase::init_video_stream`. -/
def initVideoStream (c : QCamxConfig) : InitResult where
  syncBufferMode := .external
  cameraStreams := constructDefaultRequestSettings 1 .videoRecord
    (constructDefaultRequestSettings 0 c.previewType (configStreams 2))

/-- `QCamxVideoOnlyCase::init_video_only_stream`. -/
def initVideoOnlyStream : InitResult where
  syncBufferMode := .external
  cameraStreams := constructDefaultRequestSettings 0 .videoRecord (configStreams 1)

/-- The number of streams `QCamxHAL3TestVideo::pre_init_stream` prepares. -/
def hal3TestVideoStreams (c : QCamxConfig) : ℕ :=
  if (videoMode c).value ≤ VideoMode.hfr60.value then if c.rawStreamEnable then 4 else 3 else 2

/-- `QCamxHAL3TestVideo::initVideoStreams`. -/
def initVideoStreams (c : QCamxConfig) : InitResult where
  syncBufferMode := .external
  cameraStreams :=
    let streams := constructDefaultRequestSettings 1 .videoRecord
      (constructDefaultRequestSettings 0 c.previewType (configStreams (hal3TestVideoStreams c)))
    if (videoMode c).value ≤ VideoMode.hfr60.value then
      constructDefaultRequestSettings 2 .videoSnapshot streams
    else streams

/-- `QCamxHAL3TestDepth::initDepthStream`. -/
def initDepthStream (c : QCamxConfig) : InitResult where
  syncBufferMode := .internal
  cameraStreams :=
    let streams := constructDefaultRequestSettings 0 .videoRecord
      (configStreams (if c.depthIRBGEnabled then 2 else 1))
    if c.depthIRBGEnabled then constructDefaultRequestSettings 1 .videoRecord streams else streams

/-- The init function of a case. -/
def initStreams : TestCase → QCamxConfig → InitResult
  | .previewOnly, _ => initPreviewStream
  | .previewSnapshot, _ => initSnapshotStreams
  | .previewVideo, c => initVideoStream c
  | .videoOnly, _ => initVideoOnlyStream
  | .hal3TestVideo, c => initVideoStreams c
  | .hal3TestDepth, c => initDepthStream c

@[simp] theorem length_configStreams (n : ℕ) : (configStreams n).length = n := by
  simp [configStreams]

@[simp] theorem length_constructDefaultRequestSettings (index : ℕ) (type : Template)
    (streams : List CameraStream) :
    (constructDefaultRequestSettings index type streams).length = streams.length := by
  simp [constructDefaultRequestSettings]

theorem streamId_constructDefaultRequestSettings {index : ℕ} {type : Template}
    {streams : List CameraStream}
    (h : ∀ (i : ℕ) (s : CameraStream), streams[i]? = some s → s.streamId = i) (i : ℕ)
    (s : CameraStream) (hs : (constructDefaultRequestSettings index type streams)[i]? = some s) :
    s.streamId = i := by
  rw [constructDefaultRequestSettings, List.getElem?_modify] at hs
  obtain ⟨s₀, hs₀, rfl⟩ := Option.map_eq_some_iff.mp hs
  split_ifs <;> exact h i s₀ hs₀

theorem streamId_configStreams (n i : ℕ) (s : CameraStream)
    (hs : (configStreams n)[i]? = some s) : s.streamId = i := by
  rw [configStreams, List.getElem?_map] at hs
  obtain ⟨j, hj, rfl⟩ := Option.map_eq_some_iff.mp hs
  obtain ⟨hlt, rfl⟩ := List.getElem?_eq_some_iff.mp hj
  exact List.getElem_range hlt

/-- **Every init function numbers the streams by their position.** -/
theorem streamId_initStreams (tc : TestCase) (c : QCamxConfig) (i : ℕ) (s : CameraStream)
    (hs : (initStreams tc c).cameraStreams[i]? = some s) : s.streamId = i := by
  have h₀ := streamId_configStreams
  cases tc with
  | previewOnly | videoOnly =>
      exact streamId_constructDefaultRequestSettings (h₀ _) i s hs
  | previewSnapshot | previewVideo =>
      exact streamId_constructDefaultRequestSettings
        (streamId_constructDefaultRequestSettings (h₀ _)) i s hs
  | hal3TestVideo =>
      simp only [initStreams, initVideoStreams] at hs
      have h₁ := @streamId_constructDefaultRequestSettings 0 c.previewType _
        (h₀ (hal3TestVideoStreams c))
      have h₂ := @streamId_constructDefaultRequestSettings 1 .videoRecord _ h₁
      split_ifs at hs
      · exact streamId_constructDefaultRequestSettings h₂ i s hs
      · exact h₂ i s hs
  | hal3TestDepth =>
      simp only [initStreams, initDepthStream] at hs
      have h₁ := @streamId_constructDefaultRequestSettings 0 .videoRecord _
        (h₀ (if c.depthIRBGEnabled then 2 else 1))
      split_ifs at hs h₁
      · exact streamId_constructDefaultRequestSettings h₁ i s hs
      · exact h₁ i s hs

/-! ## Start -/

/-- The skip pattern of the preview stream, `ceil((float)mode / VIDEO_MODE_HFR60)` for a high
frame rate. -/
def previewSkipPattern (m : VideoMode) : ℕ :=
  if VideoMode.hfr60.value < m.value then
    (m.value + (VideoMode.hfr60.value - 1)) / VideoMode.hfr60.value
  else 1

/-- The `request_number` array that the `run` of a case starts with. -/
def runRequestNumber (tc : TestCase) (c : QCamxConfig) : ℕ → ℤ :=
  match tc with
  | .previewOnly => Function.update 0 0 requestNumberUmlimit
  | .previewSnapshot =>
      Function.update (Function.update 0 0 requestNumberUmlimit) 1
        (if c.snapshotFormat = halPixelFormatBlob then 0 else requestNumberUmlimit)
  | .previewVideo | .hal3TestVideo =>
      Function.update (Function.update 0 1 requestNumberUmlimit) 0 requestNumberUmlimit
  | .videoOnly => Function.update 0 0 requestNumberUmlimit
  | .hal3TestDepth =>
      if c.depthIRBGEnabled then
        Function.update (Function.update 0 0 requestNumberUmlimit) 1 requestNumberUmlimit
      else Function.update 0 0 requestNumberUmlimit

/-- The `skip_pattern` array that the `run` of a case starts with. -/
def runSkipPattern (tc : TestCase) (c : QCamxConfig) : ℕ → ℕ :=
  match tc with
  | .previewVideo | .hal3TestVideo => Function.update 1 0 (previewSkipPattern (videoMode c))
  | _ => 1

/-- The request thread's data that the `run` of a case builds. -/
def runRequestThread (tc : TestCase) (c : QCamxConfig) :
    CameraThreadData (List CameraRequestMsg) where
  messageQueue := []
  requestNumber := runRequestNumber tc c
  skipPattern := runSkipPattern tc c

/-- The `_living_request_ext_append` that the `run` of a case leaves in the device. -/
def livingRequestExtAppend (tc : TestCase) (c : QCamxConfig) : ℕ :=
  match tc with
  | .previewVideo | .videoOnly | .hal3TestVideo =>
      if (videoMode c).value ≤ VideoMode.hfr60.value then livingRequestAppend
      else hfrLivingRequestAppend
  | _ => 0

/-! ## Capture commands -/

/-- The `REQUEST_CHANGE` message that the `request_capture` of a case posts, if any. -/
def requestCapture (tc : TestCase) (c : QCamxConfig) (count : ℤ) : Option CameraRequestMsg :=
  match tc with
  | .previewSnapshot =>
      if c.snapshotFormat = halPixelFormatBlob then
        some ⟨.requestChange, 1 <<< 1, Function.update 0 1 count, 0⟩
      else none
  | .hal3TestVideo =>
      if c.rawStreamEnable then
        some ⟨.requestChange, 1 <<< 2 ||| 1 <<< 3,
          Function.update (Function.update 0 2 count) 3 count, 0⟩
      else some ⟨.requestChange, 1 <<< 2, Function.update 0 2 count, 0⟩
  | _ => none

theorem messageType_requestCapture {tc : TestCase} {c : QCamxConfig} {count : ℤ}
    {msg : CameraRequestMsg} (h : requestCapture tc c count = some msg) :
    msg.messageType = .requestChange := by
  unfold requestCapture at h
  split at h
  · split_ifs at h
    rw [← Option.some.inj h]
  · split_ifs at h <;> rw [← Option.some.inj h]
  · cases h

end QCamx
