import QCamx.Case

/-!
# `capture_post_process`: what each case does with a result

The body of each case's loop is a function of one output buffer: the effects it has, in order, and
the case members it leaves. Giving a buffer up is one of two effects, `returnBuffer` and
`enqueueFrameBuffer`.

* `postProcessBuffer`: the six loop bodies under one name;
* `capturePostProcess`: the loop; `none` where `find_stream_index` returns `-1`;
* `returnBuffersBack`: the device's own loop after the callback;
* `caseGives`, `deviceGives`: who gives a buffer up;
* `capturePostProcess_spec`: the callback gives up exactly the buffers `caseGives` names;
* **`giveUps_perm_iff`**: when each buffer is given up once.
-/

namespace QCamx

/-! ## Effects and members -/

/-- The function pointers of `Callbacks` that are set. -/
structure Callbacks where
  previewCb : Bool
  snapshotCb : Bool
  videoCb : Bool
  deriving DecidableEq, Repr

/-- The members of a case that `capture_post_process` reads or writes. -/
structure CaseState where
  callbacks : Option Callbacks := none
  dumpPreviewNum : UInt32 := 0
  dumpVideoNum : UInt32 := 0
  dumpInterval : ℕ := 0
  snapshotNum : ℤ := 0
  stop : Bool := false
  deriving DecidableEq, Repr

/-- What the body of the loop does besides changing members; `index` is the stream's index. -/
inductive Effect
  | previewCb (info : Buffer) (frame : ℕ)
  | snapshotCb (info : Buffer) (frame : ℕ)
  | videoCb (info : Buffer) (frame : ℕ)
  | dumpFrame (info : Buffer) (frame : ℕ) (type : StreamType) (subformat : Implsubformat)
  | returnBuffer (index : ℕ) (buffer : Buffer)
  | enqueueFrameBuffer (index : ℕ) (buffer : Buffer)
  | showFps (type : StreamType)
  deriving DecidableEq, Repr

/-- The buffer an effect gives up. -/
def Effect.givesUp : Effect → Option (ℕ × Buffer)
  | returnBuffer index buffer | enqueueFrameBuffer index buffer => some (index, buffer)
  | _ => none

/-- `trigger_dump`. -/
def triggerDump (count interval : ℤ) (cs : CaseState) : CaseState :=
  { cs with
    dumpPreviewNum := UInt32.ofInt count
    dumpVideoNum := UInt32.ofInt count
    dumpInterval := if 0 ≤ interval then interval.toNat else cs.dumpInterval }

/-! ## The pieces the loop bodies share -/

section Body

variable (c : QCamxConfig) (cs : CaseState) (frame : ℕ) (index : ℕ) (buffer : Buffer)

def previewCallback : List Effect :=
  if cs.callbacks.any (·.previewCb) then [.previewCb buffer frame] else []

def snapshotCallback : List Effect :=
  if cs.callbacks.any (·.snapshotCb) then [.snapshotCb buffer frame] else []

def videoCallback : List Effect :=
  if cs.callbacks.any (·.videoCb) then [.videoCb buffer frame] else []

def showFps (type : StreamType) : List Effect := if c.showFps then [.showFps type] else []

/-- The test on a dump counter that every case makes. -/
def dumpDue (num : UInt32) : Bool :=
  0 < num && (cs.dumpInterval == 0 || (0 < cs.dumpInterval && frame % cs.dumpInterval == 0))

/-- The dump that `_dump_preview_num` counts. -/
def dumpPreview (type : StreamType) : List Effect × CaseState :=
  if dumpDue cs frame cs.dumpPreviewNum then
    ([.dumpFrame buffer frame type c.previewSubformat],
      if cs.dumpInterval = 0 then { cs with dumpPreviewNum := cs.dumpPreviewNum - 1 } else cs)
  else ([], cs)

/-- The dump that `_dump_video_num` counts. -/
def dumpVideo (type : StreamType) : List Effect × CaseState :=
  if dumpDue cs frame cs.dumpVideoNum then
    ([.dumpFrame buffer frame type c.videoSubformat],
      if cs.dumpInterval = 0 then { cs with dumpVideoNum := cs.dumpVideoNum - 1 } else cs)
  else ([], cs)

/-- `enqueue_frame_buffer` of the preview-video and the video-only case. -/
def enqueueFrameBuffer : List Effect :=
  if c.enableVideoEncoder then [.enqueueFrameBuffer index buffer]
  else [.returnBuffer index buffer]

/-- `QCamxHAL3TestVideo::EnqueueFrameBuffer`, whose call of the encoder is commented out. -/
def hal3EnqueueFrameBuffer : List Effect :=
  if c.enableVideoEncoder then [] else [.returnBuffer index buffer]

/-! ## The loop bodies -/

/-- The body of `QCamxPreviewOnlyCase::capture_post_process`. -/
def previewOnlyBuffer (stream : CameraStream) : List Effect × CaseState :=
  if stream.streamType = some .preview then
    let dump := dumpPreview c cs frame buffer .preview
    (previewCallback cs frame buffer ++ dump.1 ++ showFps c .preview, dump.2)
  else ([], cs)

/-- The body of `QCamxPreviewSnapshotCase::capture_post_process`. -/
def previewSnapshotBuffer (stream : CameraStream) : List Effect × CaseState :=
  if stream.streamType = some .stillCapture then
    if 0 < cs.snapshotNum then
      (snapshotCallback cs frame buffer ++ [.dumpFrame buffer frame .snapshot c.snapshotSubformat],
        { cs with snapshotNum := cs.snapshotNum - 1 })
    else (snapshotCallback cs frame buffer, cs)
  else if stream.streamType = some .preview then
    let dump := dumpPreview c cs frame buffer .preview
    (previewCallback cs frame buffer ++ dump.1 ++ showFps c .preview, dump.2)
  else ([], cs)

/-- The body of `QCamxPreviewVideoCase::capture_post_process`. -/
def previewVideoBuffer (stream : CameraStream) : List Effect × CaseState :=
  if stream.streamId = 1 then
    let dump := dumpVideo c cs frame buffer .video
    (videoCallback cs frame buffer ++ dump.1 ++
      (if cs.stop then [.returnBuffer index buffer] else enqueueFrameBuffer c index buffer) ++
      showFps c .video, dump.2)
  else if stream.streamId = 0 then
    let dump := dumpPreview c cs frame buffer .preview
    (previewCallback cs frame buffer ++ dump.1 ++ [.returnBuffer index buffer] ++
      showFps c .preview, dump.2)
  else ([], cs)

/-- The dump of the video-only case: it tests `_dump_video_num` and decrements
`_dump_preview_num`. -/
def dumpVideoOnly : List Effect × CaseState :=
  if dumpDue cs frame cs.dumpVideoNum then
    ([.dumpFrame buffer frame .video c.videoSubformat],
      if cs.dumpInterval = 0 then { cs with dumpPreviewNum := cs.dumpPreviewNum - 1 } else cs)
  else ([], cs)

/-- The body of `QCamxVideoOnlyCase::capture_post_process`. -/
def videoOnlyBuffer (stream : CameraStream) : List Effect × CaseState :=
  if stream.streamType = some .videoRecord then
    let dump := dumpVideoOnly c cs frame buffer
    (videoCallback cs frame buffer ++ dump.1 ++
      (if cs.stop then [.returnBuffer index buffer] else enqueueFrameBuffer c index buffer) ++
      showFps c .video, dump.2)
  else ([], cs)

/-- The body of `QCamxHAL3TestVideo::capture_post_process`. -/
def hal3TestVideoBuffer (stream : CameraStream) : List Effect × CaseState :=
  if stream.streamId = 3 then
    (snapshotCallback cs frame buffer ++ [.returnBuffer index buffer], cs)
  else if stream.streamId = 2 then
    (snapshotCallback cs frame buffer ++
      [.dumpFrame buffer frame .snapshot c.snapshotSubformat, .returnBuffer index buffer], cs)
  else if stream.streamId = 1 then
    let dump := dumpVideo c cs frame buffer .video
    (videoCallback cs frame buffer ++ dump.1 ++
      (if cs.stop then [.returnBuffer index buffer] else hal3EnqueueFrameBuffer c index buffer) ++
      showFps c .video, dump.2)
  else if stream.streamId = 0 then
    let dump := dumpPreview c cs frame buffer .preview
    (previewCallback cs frame buffer ++ dump.1 ++ [.returnBuffer index buffer] ++
      showFps c .preview, dump.2)
  else ([], cs)

/-- The body of `QCamxHAL3TestDepth::capture_post_process`. -/
def hal3TestDepthBuffer (stream : CameraStream) : List Effect × CaseState :=
  if stream.streamId = 0 then
    let dump := dumpVideo c cs frame buffer .depth
    (videoCallback cs frame buffer ++ dump.1 ++ [.returnBuffer index buffer] ++
      showFps c .depth, dump.2)
  else if stream.streamId = 1 then
    let dump := dumpPreview c cs frame buffer .irbg
    (previewCallback cs frame buffer ++ dump.1 ++ [.returnBuffer index buffer] ++
      showFps c .irbg, dump.2)
  else ([], cs)

/-- The loop body of a case. -/
def postProcessBuffer (tc : TestCase) (stream : CameraStream) : List Effect × CaseState :=
  match tc with
  | .previewOnly => previewOnlyBuffer c cs frame buffer stream
  | .previewSnapshot => previewSnapshotBuffer c cs frame buffer stream
  | .previewVideo => previewVideoBuffer c cs frame index buffer stream
  | .videoOnly => videoOnlyBuffer c cs frame index buffer stream
  | .hal3TestVideo => hal3TestVideoBuffer c cs frame index buffer stream
  | .hal3TestDepth => hal3TestDepthBuffer c cs frame index buffer stream

end Body

/-! ## The loops -/

/-- `find_stream_index`, with `none` for `-1`. -/
def findStreamIndex (streams : List StreamPtr) (stream : StreamPtr) : Option ℕ :=
  streams.idxOf? stream

/-- One round of the loop of `capture_post_process`. -/
def postProcessStep (tc : TestCase) (c : QCamxConfig) (streams : List StreamPtr)
    (cameraStreams : List CameraStream) (frame : ℕ) (b : StreamBuffer) (cs : CaseState) :
    Option (List Effect × CaseState) :=
  (findStreamIndex streams b.stream).bind fun index =>
    cameraStreams[index]?.map fun stream => postProcessBuffer c cs frame index b.buffer tc stream

/-- `capture_post_process` on the buffers of one result. -/
def capturePostProcess (tc : TestCase) (c : QCamxConfig) (streams : List StreamPtr)
    (cameraStreams : List CameraStream) (frame : ℕ) :
    List StreamBuffer → CaseState → Option (List Effect × CaseState)
  | [], cs => some ([], cs)
  | b :: bs, cs =>
      (postProcessStep tc c streams cameraStreams frame b cs).bind fun r =>
        (capturePostProcess tc c streams cameraStreams frame bs r.2).map fun r' =>
          (r.1 ++ r'.1, r'.2)

/-- The buffers that `do_capture_post_process` itself returns after the callback. -/
def returnBuffersBack (mode : SyncBufferMode) (streams : List StreamPtr) (bs : List StreamBuffer) :
    Option (List (ℕ × Buffer)) :=
  if mode ≠ .external then
    bs.mapM fun b => (findStreamIndex streams b.stream).map fun index => (index, b.buffer)
  else some []

/-- Everything given up for one result: by the callback, then by the device. -/
def giveUps (tc : TestCase) (c : QCamxConfig) (streams : List StreamPtr) (r : CaptureResult)
    (cs : CaseState) : Option (List (ℕ × Buffer)) :=
  (capturePostProcess tc c streams (initStreams tc c).cameraStreams r.frameNumber
    r.outputBuffers cs).bind fun p =>
      (returnBuffersBack (initStreams tc c).syncBufferMode streams r.outputBuffers).map fun l =>
        p.1.filterMap Effect.givesUp ++ l

/-! ## Who gives a buffer up -/

/-- Whether the callback of a case gives up the buffers of its stream `index`. -/
def caseGives (tc : TestCase) (c : QCamxConfig) (stop : Bool) (index : ℕ) : Bool :=
  match tc with
  | .previewOnly | .previewSnapshot => false
  | .previewVideo | .videoOnly | .hal3TestDepth => true
  | .hal3TestVideo => !(index == 1 && !stop && c.enableVideoEncoder)

/-- Whether the device's loop gives up the buffers of a processed result. -/
def deviceGives (tc : TestCase) (c : QCamxConfig) : Bool :=
  decide ((initStreams tc c).syncBufferMode ≠ .external)

section Body

variable (c : QCamxConfig) (cs : CaseState) (frame : ℕ) (index : ℕ) (buffer : Buffer)

@[simp] theorem givesUp_previewCallback :
    (previewCallback cs frame buffer).filterMap Effect.givesUp = [] := by
  unfold previewCallback; split_ifs <;> rfl

@[simp] theorem givesUp_snapshotCallback :
    (snapshotCallback cs frame buffer).filterMap Effect.givesUp = [] := by
  unfold snapshotCallback; split_ifs <;> rfl

@[simp] theorem givesUp_videoCallback :
    (videoCallback cs frame buffer).filterMap Effect.givesUp = [] := by
  unfold videoCallback; split_ifs <;> rfl

@[simp] theorem givesUp_showFps (type : StreamType) :
    (showFps c type).filterMap Effect.givesUp = [] := by
  unfold showFps; split_ifs <;> rfl

@[simp] theorem givesUp_dumpPreview (type : StreamType) :
    (dumpPreview c cs frame buffer type).1.filterMap Effect.givesUp = [] := by
  unfold dumpPreview; split_ifs <;> rfl

@[simp] theorem givesUp_dumpVideo (type : StreamType) :
    (dumpVideo c cs frame buffer type).1.filterMap Effect.givesUp = [] := by
  unfold dumpVideo; split_ifs <;> rfl

@[simp] theorem givesUp_dumpVideoOnly :
    (dumpVideoOnly c cs frame buffer).1.filterMap Effect.givesUp = [] := by
  unfold dumpVideoOnly; split_ifs <;> rfl

@[simp] theorem givesUp_enqueueFrameBuffer :
    (enqueueFrameBuffer c index buffer).filterMap Effect.givesUp = [(index, buffer)] := by
  unfold enqueueFrameBuffer; split_ifs <;> rfl

@[simp] theorem givesUp_dumpFrame (type : StreamType) (subformat : Implsubformat) :
    (Effect.dumpFrame buffer frame type subformat).givesUp = none := rfl

@[simp] theorem givesUp_returnBuffer :
    (Effect.returnBuffer index buffer).givesUp = some (index, buffer) := rfl

@[simp] theorem stop_dumpPreview (type : StreamType) :
    (dumpPreview c cs frame buffer type).2.stop = cs.stop := by
  unfold dumpPreview; split_ifs <;> rfl

@[simp] theorem stop_dumpVideo (type : StreamType) :
    (dumpVideo c cs frame buffer type).2.stop = cs.stop := by
  unfold dumpVideo; split_ifs <;> rfl

@[simp] theorem stop_dumpVideoOnly :
    (dumpVideoOnly c cs frame buffer).2.stop = cs.stop := by
  unfold dumpVideoOnly; split_ifs <;> rfl

theorem stop_postProcessBuffer (tc : TestCase) (stream : CameraStream) :
    (postProcessBuffer c cs frame index buffer tc stream).2.stop = cs.stop := by
  cases tc with
  | previewOnly => simp only [postProcessBuffer, previewOnlyBuffer]; split_ifs <;> simp
  | previewSnapshot => simp only [postProcessBuffer, previewSnapshotBuffer]; split_ifs <;> simp
  | previewVideo => simp only [postProcessBuffer, previewVideoBuffer]; split_ifs <;> simp
  | videoOnly => simp only [postProcessBuffer, videoOnlyBuffer]; split_ifs <;> simp
  | hal3TestVideo => simp only [postProcessBuffer, hal3TestVideoBuffer]; split_ifs <;> simp
  | hal3TestDepth => simp only [postProcessBuffer, hal3TestDepthBuffer]; split_ifs <;> simp

end Body

theorem length_cameraStreams (tc : TestCase) (c : QCamxConfig) :
    (initStreams tc c).cameraStreams.length ≤
      match tc with
      | .previewOnly | .videoOnly => 1
      | .previewSnapshot | .previewVideo | .hal3TestDepth => 2
      | .hal3TestVideo => maxStream := by
  cases tc with
  | previewOnly | previewSnapshot | previewVideo | videoOnly =>
      simp [initStreams, initPreviewStream, initSnapshotStreams, initVideoStream,
        initVideoOnlyStream]
  | hal3TestVideo =>
      simp only [initStreams, initVideoStreams, hal3TestVideoStreams, maxStream]
      split_ifs <;> simp
  | hal3TestDepth =>
      simp only [initStreams, initDepthStream]
      split_ifs <;> simp

/-- **What one round of the callback's loop gives up**, on a stream of the case. -/
theorem givesUp_postProcessBuffer {tc : TestCase} {c : QCamxConfig} {cs : CaseState}
    {frame index : ℕ} {buffer : Buffer} {stream : CameraStream}
    (hs : (initStreams tc c).cameraStreams[index]? = some stream) :
    (postProcessBuffer c cs frame index buffer tc stream).1.filterMap Effect.givesUp =
      if caseGives tc c cs.stop index then [(index, buffer)] else [] := by
  have hid := streamId_initStreams tc c index stream hs
  have hlt : index < (initStreams tc c).cameraStreams.length :=
    (List.getElem?_eq_some_iff.mp hs).1
  have hle := length_cameraStreams tc c
  cases tc with
  | previewOnly =>
      simp only [postProcessBuffer, previewOnlyBuffer, caseGives, Bool.false_eq_true, if_false]
      split_ifs <;> simp
  | previewSnapshot =>
      simp only [postProcessBuffer, previewSnapshotBuffer, caseGives, Bool.false_eq_true,
        if_false]
      split_ifs <;> simp
  | previewVideo =>
      simp only at hle
      have hi : index = 0 ∨ index = 1 := by omega
      rcases hi with rfl | rfl
      · simp [postProcessBuffer, previewVideoBuffer, caseGives, hid]
      · cases hstop : cs.stop <;>
          simp [postProcessBuffer, previewVideoBuffer, caseGives, hid, hstop]
  | videoOnly =>
      simp only at hle
      obtain rfl : index = 0 := by omega
      obtain rfl : (⟨0, some .videoRecord⟩ : CameraStream) = stream := Option.some.inj hs
      cases hstop : cs.stop <;> simp [postProcessBuffer, videoOnlyBuffer, caseGives, hstop]
  | hal3TestVideo =>
      simp only [maxStream] at hle
      have hi : index = 0 ∨ index = 1 ∨ index = 2 ∨ index = 3 := by omega
      rcases hi with rfl | rfl | rfl | rfl
      · simp [postProcessBuffer, hal3TestVideoBuffer, caseGives, hid]
      · cases hstop : cs.stop <;> cases henc : c.enableVideoEncoder <;>
          simp [postProcessBuffer, hal3TestVideoBuffer, caseGives, hid, hstop, henc,
            hal3EnqueueFrameBuffer]
      · simp [postProcessBuffer, hal3TestVideoBuffer, caseGives, hid, List.filterMap_cons]
      · simp [postProcessBuffer, hal3TestVideoBuffer, caseGives, hid]
  | hal3TestDepth =>
      simp only at hle
      have hi : index = 0 ∨ index = 1 := by omega
      rcases hi with rfl | rfl <;> simp [postProcessBuffer, hal3TestDepthBuffer, caseGives, hid]

/-! ## The whole loop -/

theorem filter_append_filter_perm_iff {α : Type*} [DecidableEq α] (p q : α → Bool) (l : List α) :
    (l.filter p ++ l.filter q).Perm l ↔ ∀ a ∈ l, (p a = true ↔ q a = false) := by
  have hc : ∀ (r : α → Bool) (a : α), (l.filter r).count a = if r a then l.count a else 0 := by
    intro r a
    split_ifs with h
    · exact List.count_filter h
    · exact List.count_eq_zero.mpr fun hm => h (List.mem_filter.mp hm).2
  rw [List.perm_iff_count]
  constructor
  · intro h a ha
    have h₁ := h a
    have h₂ : 0 < l.count a := List.count_pos_iff.mpr ha
    rw [List.count_append, hc, hc] at h₁
    cases hp : p a <;> cases hq : q a <;> simp only [hp, hq] at h₁ ⊢ <;> simp at h₁ ⊢ <;> omega
  · intro h a
    rw [List.count_append, hc, hc]
    by_cases ha : a ∈ l
    · have := h a ha
      cases hp : p a <;> cases hq : q a <;> simp_all
    · simp [List.count_eq_zero.mpr ha]

theorem findStreamIndex_of_mem {streams : List StreamPtr} {p : StreamPtr} (h : p ∈ streams) :
    findStreamIndex streams p = some (streams.idxOf p) := by
  obtain ⟨i, hi⟩ := Option.isSome_iff_exists.mp (List.isSome_idxOf?.mpr h)
  rw [findStreamIndex, List.idxOf_eq_getD_idxOf?, hi, Option.getD_some]

/-- A stream buffer as the managers see it: the index of the manager, and the buffer. -/
def atManager (streams : List StreamPtr) (b : StreamBuffer) : ℕ × Buffer :=
  (streams.idxOf b.stream, b.buffer)

section Loop

variable {tc : TestCase} {c : QCamxConfig} {streams : List StreamPtr}

theorem postProcessStep_spec (hlen : streams.length ≤ (initStreams tc c).cameraStreams.length)
    (frame : ℕ) {b : StreamBuffer} (hb : b.stream ∈ streams) (cs : CaseState) :
    ∃ eff cs', postProcessStep tc c streams (initStreams tc c).cameraStreams frame b cs =
        some (eff, cs') ∧ cs'.stop = cs.stop ∧
      eff.filterMap Effect.givesUp =
        if caseGives tc c cs.stop (streams.idxOf b.stream) then [atManager streams b] else [] := by
  have hlt : streams.idxOf b.stream < (initStreams tc c).cameraStreams.length :=
    (List.idxOf_lt_length_of_mem hb).trans_le hlen
  have hs := List.getElem?_eq_getElem hlt
  have heq : postProcessStep tc c streams (initStreams tc c).cameraStreams frame b cs =
      some (postProcessBuffer c cs frame (streams.idxOf b.stream) b.buffer tc
        (initStreams tc c).cameraStreams[streams.idxOf b.stream]) := by
    rw [postProcessStep, findStreamIndex_of_mem hb, Option.bind_some, hs, Option.map_some]
  exact ⟨_, _, heq, stop_postProcessBuffer .., givesUp_postProcessBuffer hs⟩

theorem capturePostProcess_spec
    (hlen : streams.length ≤ (initStreams tc c).cameraStreams.length) (frame : ℕ)
    {bs : List StreamBuffer} (hbs : ∀ b ∈ bs, b.stream ∈ streams) (cs : CaseState) :
    ∃ eff cs', capturePostProcess tc c streams (initStreams tc c).cameraStreams frame bs cs =
        some (eff, cs') ∧
      eff.filterMap Effect.givesUp =
        (bs.map (atManager streams)).filter fun t => caseGives tc c cs.stop t.1 := by
  induction bs generalizing cs with
  | nil => exact ⟨_, _, rfl, rfl⟩
  | cons b bs ih =>
      obtain ⟨eff, cs', hstep, hstop, heff⟩ :=
        postProcessStep_spec hlen frame (hbs b List.mem_cons_self) cs
      obtain ⟨eff', cs'', hloop, heff'⟩ := ih (fun b hb => hbs b (List.mem_cons_of_mem _ hb)) cs'
      refine ⟨eff ++ eff', cs'', ?_, ?_⟩
      · rw [capturePostProcess, hstep, Option.bind_some, hloop, Option.map_some]
      · rw [List.filterMap_append, heff, heff', hstop, List.map_cons, List.filter_cons]
        by_cases h : caseGives tc c cs.stop (streams.idxOf b.stream) = true
        · simp [h, atManager]
        · simp [h, atManager]

theorem returnBuffersBack_eq (mode : SyncBufferMode) {bs : List StreamBuffer}
    (hbs : ∀ b ∈ bs, b.stream ∈ streams) :
    returnBuffersBack mode streams bs =
      some (if mode ≠ .external then bs.map (atManager streams) else []) := by
  have h : ∀ {bs : List StreamBuffer}, (∀ b ∈ bs, b.stream ∈ streams) →
      (bs.mapM fun b => (findStreamIndex streams b.stream).map fun index => (index, b.buffer)) =
        some (bs.map (atManager streams)) := by
    intro bs
    induction bs with
    | nil => intro _; rfl
    | cons b bs ih =>
        intro hbs
        rw [List.mapM_cons, findStreamIndex_of_mem (hbs b List.mem_cons_self),
          ih fun b hb => hbs b (List.mem_cons_of_mem _ hb)]
        rfl
  rw [returnBuffersBack]
  split_ifs
  · exact h hbs
  · rfl

theorem giveUps_eq (hlen : streams.length ≤ (initStreams tc c).cameraStreams.length)
    {r : CaptureResult} (hbs : ∀ b ∈ r.outputBuffers, b.stream ∈ streams) (cs : CaseState) :
    giveUps tc c streams r cs =
      some ((r.outputBuffers.map (atManager streams)).filter (caseGives tc c cs.stop ·.1) ++
        (r.outputBuffers.map (atManager streams)).filter fun _ => deviceGives tc c) := by
  obtain ⟨eff, cs', hloop, heff⟩ := capturePostProcess_spec hlen r.frameNumber hbs cs
  rw [giveUps, hloop, Option.bind_some, returnBuffersBack_eq _ hbs, Option.map_some, heff]
  by_cases h : (initStreams tc c).syncBufferMode ≠ .external
  · simp [deviceGives, h]
  · simp [deviceGives, h]

end Loop

/-! ## When each buffer is given up once -/

/-- The results whose buffers are each given up once, before `stop` is called: no buffer of a
depth result, which both sides return, and no video buffer of `QCamxHAL3TestVideo` built with the
encoder, which neither side returns. -/
def GivesUpOnce (tc : TestCase) (c : QCamxConfig) (streams : List StreamPtr)
    (bs : List StreamBuffer) : Prop :=
  (tc = .hal3TestDepth → bs = []) ∧
    (tc = .hal3TestVideo → c.enableVideoEncoder = true → ∀ b ∈ bs, streams.idxOf b.stream ≠ 1)

instance (tc : TestCase) (c : QCamxConfig) (streams : List StreamPtr) (bs : List StreamBuffer) :
    Decidable (GivesUpOnce tc c streams bs) := by
  unfold GivesUpOnce; infer_instance

theorem givesUpOnce_iff (tc : TestCase) (c : QCamxConfig) (streams : List StreamPtr)
    (bs : List StreamBuffer) :
    GivesUpOnce tc c streams bs ↔
      ∀ b ∈ bs, (caseGives tc c false (streams.idxOf b.stream) = true ↔
        deviceGives tc c = false) := by
  cases tc with
  | previewOnly | previewSnapshot | previewVideo | videoOnly =>
      simp [GivesUpOnce, caseGives, deviceGives, initStreams, initPreviewStream,
        initSnapshotStreams, initVideoStream, initVideoOnlyStream]
  | hal3TestVideo =>
      cases henc : c.enableVideoEncoder <;>
        simp [GivesUpOnce, caseGives, deviceGives, initStreams, initVideoStreams, henc]
  | hal3TestDepth =>
      simp [GivesUpOnce, caseGives, deviceGives, initStreams, initDepthStream,
        List.eq_nil_iff_forall_not_mem]

/-- The condition does not depend on the stop flag of the case. -/
theorem GivesUpOnce.caseGives_iff {tc : TestCase} {c : QCamxConfig} {streams : List StreamPtr}
    {bs : List StreamBuffer} (h : GivesUpOnce tc c streams bs) {b : StreamBuffer} (hb : b ∈ bs)
    (stop : Bool) :
    caseGives tc c stop (streams.idxOf b.stream) = true ↔
      (initStreams tc c).syncBufferMode = .external := by
  cases tc with
  | previewOnly | previewSnapshot | previewVideo | videoOnly =>
      simp [caseGives, initStreams, initPreviewStream, initSnapshotStreams, initVideoStream,
        initVideoOnlyStream]
  | hal3TestVideo =>
      cases henc : c.enableVideoEncoder with
      | false => simp [caseGives, initStreams, initVideoStreams, henc]
      | true =>
          have hne : streams.idxOf b.stream ≠ 1 := h.2 rfl henc b hb
          simp [caseGives, initStreams, initVideoStreams, hne]
  | hal3TestDepth =>
      rw [h.1 rfl] at hb
      cases hb

/-- **Each buffer of a result is given up exactly once if and only if `GivesUpOnce`.** -/
theorem giveUps_perm_iff {tc : TestCase} {c : QCamxConfig} {streams : List StreamPtr}
    (hlen : streams.length ≤ (initStreams tc c).cameraStreams.length) {r : CaptureResult}
    (hbs : ∀ b ∈ r.outputBuffers, b.stream ∈ streams) {cs : CaseState} (hstop : cs.stop = false) :
    (∃ l, giveUps tc c streams r cs = some l ∧
      l.Perm (r.outputBuffers.map (atManager streams))) ↔
      GivesUpOnce tc c streams r.outputBuffers := by
  rw [giveUps_eq hlen hbs, givesUpOnce_iff]
  simp only [Option.some_inj, exists_eq_left', filter_append_filter_perm_iff, hstop,
    List.forall_mem_map, atManager]

end QCamx
