import QCamx.PostProcess

/-!
# Frame dumps

`trigger_dump(n, 0)` sets both dump counters to `n`; a frame of a stream is dumped while the
stream's counter is positive and counts it down. Each case names the counter of a stream in its own
loop body, so the six bodies are compared with one table.

* `dumpType`, `StreamType.dumpCounter`: which streams are dumped, and by which counter;
* `postProcessResults`: the callback on a sequence of results;
* `dumpStep_postProcessBuffer`, `dumps_videoOnlyBuffer`: what one buffer does to the counters;
* **`dumpsAsTriggered_iff`**: the dumps and counters are right in every case but video-only.
-/

namespace QCamx

/-! ## Streams, counters and dumps -/

/-- The members `_dump_preview_num` and `_dump_video_num`. -/
inductive DumpCounter
  | preview | video
  deriving DecidableEq, Repr

/-- The value of a counter. -/
def CaseState.dumpNum (cs : CaseState) : DumpCounter → UInt32
  | .preview => cs.dumpPreviewNum
  | .video => cs.dumpVideoNum

/-- The counter for the frames of a stream; snapshots are dumped without one. -/
def StreamType.dumpCounter : StreamType → Option DumpCounter
  | preview | irbg => some .preview
  | video | depth => some .video
  | snapshot | rawSnapshot => none

/-- The type under which a case dumps the frames of its stream `index` on a trigger. -/
def dumpType (tc : TestCase) (index : ℕ) : Option StreamType :=
  match tc, index with
  | .previewOnly, 0 | .previewSnapshot, 0 | .previewVideo, 0 | .hal3TestVideo, 0 => some .preview
  | .videoOnly, 0 | .previewVideo, 1 | .hal3TestVideo, 1 => some .video
  | .hal3TestDepth, 0 => some .depth
  | .hal3TestDepth, 1 => some .irbg
  | _, _ => none

/-- The type an effect dumps a frame under. -/
def Effect.dumped : Effect → Option StreamType
  | dumpFrame _ _ type _ => some type
  | _ => none

/-- The number of frames dumped under a type. -/
def dumps (effects : List Effect) (t : StreamType) : ℕ := (effects.filterMap Effect.dumped).count t

/-- `capture_post_process` on one result after another. -/
def postProcessResults (tc : TestCase) (c : QCamxConfig) (streams : List StreamPtr) :
    List CaptureResult → CaseState → Option (List Effect × CaseState)
  | [], cs => some ([], cs)
  | r :: rs, cs =>
      (capturePostProcess tc c streams (initStreams tc c).cameraStreams r.frameNumber
        r.outputBuffers cs).bind fun p =>
          (postProcessResults tc c streams rs p.2).map fun q => (p.1 ++ q.1, q.2)

/-- The type under which the frame in a buffer is dumped on a trigger. -/
def bufferType (tc : TestCase) (streams : List StreamPtr) (b : StreamBuffer) : Option StreamType :=
  (findStreamIndex streams b.stream).bind (dumpType tc)

/-- The number of frames of the stream with a type. -/
def frames (tc : TestCase) (streams : List StreamPtr) (bs : List StreamBuffer) (t : StreamType) :
    ℕ :=
  bs.countP fun b => bufferType tc streams b = some t

/-- The number of frames of the streams with a counter. -/
def counterFrames (tc : TestCase) (streams : List StreamPtr) (bs : List StreamBuffer)
    (k : DumpCounter) : ℕ :=
  bs.countP fun b => (bufferType tc streams b).bind StreamType.dumpCounter = some k

/-! ## One buffer -/

section Body

variable (c : QCamxConfig) (cs : CaseState) (frame : ℕ) (index : ℕ) (buffer : Buffer)

@[simp] theorem dumps_nil (t : StreamType) : dumps [] t = 0 := rfl

@[simp] theorem dumps_append (l l' : List Effect) (t : StreamType) :
    dumps (l ++ l') t = dumps l t + dumps l' t := by
  simp [dumps, List.filterMap_append]

@[simp] theorem dumps_previewCallback (t : StreamType) :
    dumps (previewCallback cs frame buffer) t = 0 := by
  unfold previewCallback; split_ifs <;> rfl

@[simp] theorem dumps_snapshotCallback (t : StreamType) :
    dumps (snapshotCallback cs frame buffer) t = 0 := by
  unfold snapshotCallback; split_ifs <;> rfl

@[simp] theorem dumps_videoCallback (t : StreamType) :
    dumps (videoCallback cs frame buffer) t = 0 := by
  unfold videoCallback; split_ifs <;> rfl

@[simp] theorem dumps_showFps (type t : StreamType) : dumps (showFps c type) t = 0 := by
  unfold showFps; split_ifs <;> rfl

@[simp] theorem dumps_enqueueFrameBuffer (t : StreamType) :
    dumps (enqueueFrameBuffer c index buffer) t = 0 := by
  unfold enqueueFrameBuffer; split_ifs <;> rfl

@[simp] theorem dumps_hal3EnqueueFrameBuffer (t : StreamType) :
    dumps (hal3EnqueueFrameBuffer c index buffer) t = 0 := by
  unfold hal3EnqueueFrameBuffer; split_ifs <;> rfl

@[simp] theorem dumps_returnBuffer (t : StreamType) :
    dumps [.returnBuffer index buffer] t = 0 := rfl

@[simp] theorem dumps_dumpFrame (type t : StreamType) (subformat : Implsubformat)
    (l : List Effect) :
    dumps (.dumpFrame buffer frame type subformat :: l) t =
      (if type = t then 1 else 0) + dumps l t := by
  by_cases h : type = t <;> simp [dumps, Effect.dumped, h, Nat.add_comm]

theorem dumps_handOver (stop : Bool) (l : List Effect) (t : StreamType) (hl : dumps l t = 0) :
    dumps (if stop then [.returnBuffer index buffer] else l) t = 0 := by
  cases stop <;> simp [hl]

end Body

/-- What one buffer of type `type` does while there is no interval. -/
structure DumpStep (cs : CaseState) (type : Option StreamType) (r : List Effect × CaseState) :
    Prop where
  interval : r.2.dumpInterval = 0
  dumped : ∀ t k, t.dumpCounter = some k →
    dumps r.1 t = if type = some t ∧ 0 < (cs.dumpNum k).toNat then 1 else 0
  counters : ∀ k, (r.2.dumpNum k).toNat =
    (cs.dumpNum k).toNat - if type.bind StreamType.dumpCounter = some k then 1 else 0

section Step

variable {c : QCamxConfig} {cs : CaseState} {frame index : ℕ} {buffer : Buffer}

/-- A frame is dumped without an interval exactly when the counter is positive. -/
theorem dumpDue_of_interval (h : cs.dumpInterval = 0) (num : UInt32) :
    dumpDue cs frame num = decide (0 < num.toNat) := by
  simp [dumpDue, h, UInt32.lt_iff_toNat_lt]

theorem toNat_sub_one {num : UInt32} (h : 0 < num.toNat) : (num - 1).toNat = num.toNat - 1 := by
  have hle : 1 ≤ num := UInt32.le_iff_toNat_le.mpr h
  rw [UInt32.toNat_sub_of_le _ _ hle]
  rfl

theorem DumpStep.other {effects : List Effect} (h : cs.dumpInterval = 0)
    (heff : ∀ t k, t.dumpCounter = some k → dumps effects t = 0) (cs' : CaseState)
    (hcs : cs'.dumpInterval = cs.dumpInterval ∧ ∀ k, cs'.dumpNum k = cs.dumpNum k) :
    DumpStep cs none (effects, cs') where
  interval := hcs.1.trans h
  dumped t k hk := by simp [heff t k hk]
  counters k := by simp [hcs.2 k]

theorem DumpStep.prepend {type : Option StreamType} {r : List Effect × CaseState}
    (h : DumpStep cs type r) {l : List Effect} (hl : ∀ t, dumps l t = 0) :
    DumpStep cs type (l ++ r.1, r.2) where
  interval := h.interval
  dumped t k hk := by simp [hl t, h.dumped t k hk]
  counters := h.counters

theorem DumpStep.append {type : Option StreamType} {r : List Effect × CaseState}
    (h : DumpStep cs type r) {l : List Effect} (hl : ∀ t, dumps l t = 0) :
    DumpStep cs type (r.1 ++ l, r.2) where
  interval := h.interval
  dumped t k hk := by simp [hl t, h.dumped t k hk]
  counters := h.counters

theorem DumpStep.dump {type : StreamType} {k₀ : DumpCounter} (htype : type.dumpCounter = some k₀)
    (hnum : 0 < (cs.dumpNum k₀).toNat) {cs' : CaseState} (hcs : cs'.dumpInterval = 0)
    (hk₀ : cs'.dumpNum k₀ = cs.dumpNum k₀ - 1) (hk : ∀ k ≠ k₀, cs'.dumpNum k = cs.dumpNum k)
    (subformat : Implsubformat) :
    DumpStep cs (some type) ([.dumpFrame buffer frame type subformat], cs') where
  interval := hcs
  dumped t k hk := by
    by_cases ht : type = t
    · subst ht
      obtain rfl := Option.some.inj (htype.symm.trans hk)
      simp [hnum]
    · simp [ht]
  counters k := by
    by_cases hkk : k = k₀
    · subst hkk
      simp [hk₀, htype, toNat_sub_one hnum]
    · simp [hk k hkk, htype, Ne.symm hkk]

theorem DumpStep.exhausted {type : StreamType} {k₀ : DumpCounter}
    (htype : type.dumpCounter = some k₀) (hnum : ¬ 0 < (cs.dumpNum k₀).toNat)
    (hcs : cs.dumpInterval = 0) : DumpStep cs (some type) ([], cs) where
  interval := hcs
  dumped t k hk := by
    by_cases ht : type = t
    · subst ht
      obtain rfl := Option.some.inj (htype.symm.trans hk)
      simp [hnum]
    · simp [ht]
  counters k := by
    by_cases hkk : k₀ = k
    · subst hkk
      have hzero : (cs.dumpNum k₀).toNat = 0 := by omega
      simp [hzero]
    · simp [htype, hkk]

theorem dumpStep_dumpPreview (h : cs.dumpInterval = 0) {type : StreamType}
    (htype : type.dumpCounter = some .preview) :
    DumpStep cs (some type) (dumpPreview c cs frame buffer type) := by
  unfold dumpPreview
  rw [dumpDue_of_interval h]
  by_cases hnum : 0 < cs.dumpPreviewNum.toNat
  · rw [if_pos (by simpa using hnum), if_pos h]
    exact .dump htype hnum (by exact h) rfl
      (by rintro (_ | _) hk <;> simp_all [CaseState.dumpNum]) _
  · rw [if_neg (by simpa using hnum)]
    exact .exhausted htype hnum h

theorem dumpStep_dumpVideo (h : cs.dumpInterval = 0) {type : StreamType}
    (htype : type.dumpCounter = some .video) :
    DumpStep cs (some type) (dumpVideo c cs frame buffer type) := by
  unfold dumpVideo
  rw [dumpDue_of_interval h]
  by_cases hnum : 0 < cs.dumpVideoNum.toNat
  · rw [if_pos (by simpa using hnum), if_pos h]
    exact .dump htype hnum (by exact h) rfl
      (by rintro (_ | _) hk <;> simp_all [CaseState.dumpNum]) _
  · rw [if_neg (by simpa using hnum)]
    exact .exhausted htype hnum h

/-- **One buffer of any case but video-only.** -/
theorem dumpStep_postProcessBuffer {tc : TestCase} (htc : tc ≠ .videoOnly)
    (h : cs.dumpInterval = 0) {stream : CameraStream}
    (hs : (initStreams tc c).cameraStreams[index]? = some stream) :
    DumpStep cs (dumpType tc index) (postProcessBuffer c cs frame index buffer tc stream) := by
  have hid := streamId_initStreams tc c index stream hs
  have hlt : index < (initStreams tc c).cameraStreams.length :=
    (List.getElem?_eq_some_iff.mp hs).1
  have hle := length_cameraStreams tc c
  cases tc with
  | videoOnly => exact absurd rfl htc
  | previewOnly =>
      simp only at hle
      obtain rfl : index = 0 := by omega
      obtain rfl : (⟨0, some .preview⟩ : CameraStream) = stream := Option.some.inj hs
      exact ((dumpStep_dumpPreview h rfl).prepend (by simp)).append (by simp)
  | previewSnapshot =>
      simp only at hle
      have hi : index = 0 ∨ index = 1 := by omega
      rcases hi with rfl | rfl
      · obtain rfl : (⟨0, some .preview⟩ : CameraStream) = stream := Option.some.inj hs
        exact ((dumpStep_dumpPreview h rfl).prepend (by simp)).append (by simp)
      · obtain rfl : (⟨1, some .stillCapture⟩ : CameraStream) = stream := Option.some.inj hs
        simp only [postProcessBuffer, previewSnapshotBuffer, if_true]
        split_ifs
        · refine .other h (fun t k hk => ?_) _ ⟨rfl, fun k => by cases k <;> rfl⟩
          have ht : StreamType.snapshot ≠ t := by rintro rfl; cases hk
          simp [ht]
        · exact .other h (by simp) _ ⟨rfl, fun k => rfl⟩
  | previewVideo =>
      simp only at hle
      have hi : index = 0 ∨ index = 1 := by omega
      rcases hi with rfl | rfl
      · simp only [postProcessBuffer, previewVideoBuffer, hid]
        exact (((dumpStep_dumpPreview h rfl).prepend (by simp)).append (by simp)).append (by simp)
      · simp only [postProcessBuffer, previewVideoBuffer, hid, if_true]
        exact (((dumpStep_dumpVideo h rfl).prepend (by simp)).append fun t =>
          dumps_handOver _ _ _ _ t (by simp)).append (by simp)
  | hal3TestVideo =>
      simp only [maxStream] at hle
      have hi : index = 0 ∨ index = 1 ∨ index = 2 ∨ index = 3 := by omega
      rcases hi with rfl | rfl | rfl | rfl
      · simp only [postProcessBuffer, hal3TestVideoBuffer, hid]
        exact (((dumpStep_dumpPreview h rfl).prepend (by simp)).append (by simp)).append (by simp)
      · simp only [postProcessBuffer, hal3TestVideoBuffer, hid]
        exact (((dumpStep_dumpVideo h rfl).prepend (by simp)).append fun t =>
          dumps_handOver _ _ _ _ t (by simp)).append (by simp)
      · simp only [postProcessBuffer, hal3TestVideoBuffer, hid]
        refine .other h (fun t k hk => ?_) _ ⟨rfl, fun k => rfl⟩
        have ht : StreamType.snapshot ≠ t := by rintro rfl; cases hk
        simp [ht]
      · simp only [postProcessBuffer, hal3TestVideoBuffer, hid]
        exact .other h (by simp) _ ⟨rfl, fun k => rfl⟩
  | hal3TestDepth =>
      simp only at hle
      have hi : index = 0 ∨ index = 1 := by omega
      rcases hi with rfl | rfl
      · simp only [postProcessBuffer, hal3TestDepthBuffer, hid]
        exact (((dumpStep_dumpVideo h rfl).prepend (by simp)).append (by simp)).append (by simp)
      · simp only [postProcessBuffer, hal3TestDepthBuffer, hid]
        exact (((dumpStep_dumpPreview h rfl).prepend (by simp)).append (by simp)).append (by simp)

/-- A buffer of the video-only case: `_dump_video_num` is never counted down. -/
theorem dumps_videoOnlyBuffer (h : cs.dumpInterval = 0) {stream : CameraStream}
    (hs : (initStreams .videoOnly c).cameraStreams[index]? = some stream) :
    (postProcessBuffer c cs frame index buffer .videoOnly stream).2.dumpInterval = 0 ∧
      (postProcessBuffer c cs frame index buffer .videoOnly stream).2.dumpVideoNum =
        cs.dumpVideoNum ∧
      (cs.dumpVideoNum = 0 → DumpStep cs (dumpType .videoOnly index)
        (postProcessBuffer c cs frame index buffer .videoOnly stream)) := by
  have hlt : index < (initStreams .videoOnly c).cameraStreams.length :=
    (List.getElem?_eq_some_iff.mp hs).1
  have hle := length_cameraStreams .videoOnly c
  simp only at hle
  obtain rfl : index = 0 := by omega
  obtain rfl : (⟨0, some .videoRecord⟩ : CameraStream) = stream := Option.some.inj hs
  simp only [postProcessBuffer, videoOnlyBuffer, if_true, dumpVideoOnly]
  refine ⟨?_, ?_, fun hzero => ?_⟩
  · split_ifs <;> exact h
  · split_ifs <;> rfl
  · have hnum : ¬ 0 < (cs.dumpNum .video).toNat := by simp [CaseState.dumpNum, hzero]
    have hdue : ¬ dumpDue cs frame cs.dumpVideoNum = true := by
      rw [dumpDue_of_interval h]
      exact fun hd => hnum (of_decide_eq_true hd)
    rw [if_neg hdue]
    exact (((DumpStep.exhausted rfl hnum h).prepend (by simp)).append fun t =>
      dumps_handOver _ _ _ _ t (by simp)).append (by simp)

end Step

/-! ## Many buffers -/

/-- What buffers do, from the counters of `cs` on, while there is no interval. -/
structure DumpsFrom (tc : TestCase) (streams : List StreamPtr) (bs : List StreamBuffer)
    (cs : CaseState) (r : List Effect × CaseState) : Prop where
  interval : r.2.dumpInterval = 0
  dumped : ∀ t k, t.dumpCounter = some k →
    dumps r.1 t = min (cs.dumpNum k).toNat (frames tc streams bs t)
  counters : ∀ k, (r.2.dumpNum k).toNat = (cs.dumpNum k).toNat - counterFrames tc streams bs k

section Loop

variable {tc : TestCase} {c : QCamxConfig} {streams : List StreamPtr}

/-- No case counts two of its streams with one counter. -/
theorem eq_of_dumpCounter {i j : ℕ} {t t' : StreamType} (hi : dumpType tc i = some t)
    (hj : dumpType tc j = some t') (h : t.dumpCounter = t'.dumpCounter) : t = t' := by
  unfold dumpType at hi hj
  cases tc <;> split at hi <;> split at hj <;> simp_all <;> subst hi hj <;>
    simp_all [StreamType.dumpCounter]

theorem frames_eq {t : StreamType} {k : DumpCounter} (hk : t.dumpCounter = some k) :
    (∀ bs, frames tc streams bs t = 0) ∨
      ∀ bs, frames tc streams bs t = counterFrames tc streams bs k := by
  by_cases ht : ∃ i, dumpType tc i = some t
  · right
    intro bs
    obtain ⟨i, hi⟩ := ht
    refine List.countP_congr fun b _ => ?_
    simp only [decide_eq_true_eq, Option.bind_eq_some_iff]
    constructor
    · intro hb
      exact ⟨t, hb, hk⟩
    · rintro ⟨t', hb, hk'⟩
      obtain ⟨j, -, hj⟩ := Option.bind_eq_some_iff.mp hb
      rw [hb, eq_of_dumpCounter hj hi (hk'.trans hk.symm)]
  · left
    intro bs
    refine List.countP_eq_zero.mpr fun b _ => ?_
    simp only [decide_eq_true_eq]
    intro hb
    obtain ⟨j, -, hj⟩ := Option.bind_eq_some_iff.mp hb
    exact ht ⟨j, hj⟩

namespace DumpsFrom

theorem nil {cs : CaseState} (h : cs.dumpInterval = 0) : DumpsFrom tc streams [] cs ([], cs) where
  interval := h
  dumped t k hk := by simp [frames]
  counters k := by simp [counterFrames]

theorem of_step {cs : CaseState} {b : StreamBuffer} {r : List Effect × CaseState}
    (h : DumpStep cs (bufferType tc streams b) r) : DumpsFrom tc streams [b] cs r where
  interval := h.interval
  dumped t k hk := by
    rw [h.dumped t k hk]
    by_cases ht : bufferType tc streams b = some t
    · simp only [frames, List.countP_singleton, ht, decide_true, if_true, true_and]
      split_ifs <;> omega
    · simp [frames, ht]
  counters k := by
    rw [h.counters k]
    simp [counterFrames, List.countP_singleton]

theorem append {bs bs' : List StreamBuffer} {cs : CaseState} {r r' : List Effect × CaseState}
    (h : DumpsFrom tc streams bs cs r) (h' : DumpsFrom tc streams bs' r.2 r') :
    DumpsFrom tc streams (bs ++ bs') cs (r.1 ++ r'.1, r'.2) where
  interval := h'.interval
  dumped t k hk := by
    rw [dumps_append, h.dumped t k hk, h'.dumped t k hk, h.counters k]
    have happ : frames tc streams (bs ++ bs') t =
        frames tc streams bs t + frames tc streams bs' t := by
      rw [frames, List.countP_append]
      rfl
    rw [happ]
    rcases @frames_eq tc streams t k hk with hzero | heq
    · rw [hzero, hzero]
      omega
    · rw [heq, heq]
      omega
  counters k := by
    rw [h'.counters k, h.counters k, counterFrames, counterFrames, counterFrames,
      List.countP_append]
    omega

end DumpsFrom

/-- **One round of the callback's loop**, where the video-only case has nothing to dump. -/
theorem dumpStep_postProcessStep {frame : ℕ} {b : StreamBuffer} {cs : CaseState}
    {r : List Effect × CaseState} (h : cs.dumpInterval = 0)
    (hvideo : tc = .videoOnly → cs.dumpVideoNum = 0 ∨ bufferType tc streams b ≠ some .video)
    (hr : postProcessStep tc c streams (initStreams tc c).cameraStreams frame b cs = some r) :
    DumpStep cs (bufferType tc streams b) r := by
  obtain ⟨index, hindex, hr⟩ := Option.bind_eq_some_iff.mp hr
  obtain ⟨stream, hs, rfl⟩ := Option.map_eq_some_iff.mp hr
  have htype : bufferType tc streams b = dumpType tc index := by
    rw [bufferType, hindex, Option.bind_some]
  rw [htype]
  by_cases htc : tc = .videoOnly
  · subst htc
    refine (dumps_videoOnlyBuffer h hs).2.2 ((hvideo rfl).resolve_right fun hne => hne ?_)
    -- the only stream of the case is its video stream
    have hlt : index < (initStreams .videoOnly c).cameraStreams.length :=
      (List.getElem?_eq_some_iff.mp hs).1
    have hle := length_cameraStreams .videoOnly c
    simp only at hle
    obtain rfl : index = 0 := by omega
    rw [htype]
    rfl
  · exact dumpStep_postProcessBuffer htc h hs

theorem dumpVideoNum_postProcessStep {frame : ℕ} {b : StreamBuffer} {cs : CaseState}
    {r : List Effect × CaseState} (h : cs.dumpInterval = 0)
    (hr : postProcessStep .videoOnly c streams (initStreams .videoOnly c).cameraStreams frame b
      cs = some r) : r.2.dumpInterval = 0 ∧ r.2.dumpVideoNum = cs.dumpVideoNum := by
  obtain ⟨index, hindex, hr⟩ := Option.bind_eq_some_iff.mp hr
  obtain ⟨stream, hs, rfl⟩ := Option.map_eq_some_iff.mp hr
  exact ⟨(dumps_videoOnlyBuffer h hs).1, (dumps_videoOnlyBuffer h hs).2.1⟩

theorem videoOnly_append {cs cs' : CaseState} {bs bs' : List StreamBuffer}
    (hvideo : tc = .videoOnly → cs.dumpVideoNum = 0 ∨ frames tc streams (bs ++ bs') .video = 0)
    (hcs : tc = .videoOnly → cs'.dumpVideoNum = cs.dumpVideoNum) :
    (tc = .videoOnly → cs.dumpVideoNum = 0 ∨ frames tc streams bs .video = 0) ∧
      (tc = .videoOnly → cs'.dumpVideoNum = 0 ∨ frames tc streams bs' .video = 0) := by
  have happ : frames tc streams (bs ++ bs') .video =
      frames tc streams bs .video + frames tc streams bs' .video := by
    rw [frames, List.countP_append]
    rfl
  rw [happ] at hvideo
  constructor
  · intro htc
    exact (hvideo htc).imp_right fun h => by omega
  · intro htc
    rw [hcs htc]
    exact (hvideo htc).imp_right fun h => by omega

theorem dumpVideoNum_capturePostProcess {frame : ℕ} {bs : List StreamBuffer} {cs : CaseState}
    {r : List Effect × CaseState} (h : cs.dumpInterval = 0)
    (hr : capturePostProcess .videoOnly c streams (initStreams .videoOnly c).cameraStreams frame
      bs cs = some r) : r.2.dumpInterval = 0 ∧ r.2.dumpVideoNum = cs.dumpVideoNum := by
  induction bs generalizing cs r with
  | nil =>
      obtain rfl := Option.some.inj hr
      exact ⟨h, rfl⟩
  | cons b bs ih =>
      obtain ⟨r₁, hr₁, hr⟩ := Option.bind_eq_some_iff.mp hr
      obtain ⟨r₂, hr₂, rfl⟩ := Option.map_eq_some_iff.mp hr
      have h₁ := dumpVideoNum_postProcessStep h hr₁
      have h₂ := ih h₁.1 hr₂
      exact ⟨h₂.1, h₂.2.trans h₁.2⟩

theorem dumpsFrom_capturePostProcess {frame : ℕ} {bs : List StreamBuffer} {cs : CaseState}
    {r : List Effect × CaseState} (h : cs.dumpInterval = 0)
    (hvideo : tc = .videoOnly → cs.dumpVideoNum = 0 ∨ frames tc streams bs .video = 0)
    (hr : capturePostProcess tc c streams (initStreams tc c).cameraStreams frame bs cs = some r) :
    DumpsFrom tc streams bs cs r := by
  induction bs generalizing cs r with
  | nil =>
      obtain rfl := Option.some.inj hr
      exact .nil h
  | cons b bs ih =>
      obtain ⟨r₁, hr₁, hr⟩ := Option.bind_eq_some_iff.mp hr
      obtain ⟨r₂, hr₂, rfl⟩ := Option.map_eq_some_iff.mp hr
      have hnum : tc = .videoOnly → r₁.2.dumpVideoNum = cs.dumpVideoNum := by
        rintro rfl
        exact (dumpVideoNum_postProcessStep h hr₁).2
      obtain ⟨hb, hbs⟩ := @videoOnly_append tc streams cs r₁.2 [b] bs hvideo hnum
      have hstep := dumpStep_postProcessStep h
        (fun htc => (hb htc).imp_right fun h0 => by simpa [frames] using h0) hr₁
      exact (DumpsFrom.of_step hstep).append (ih hstep.interval hbs hr₂)

/-! ## Many results -/

theorem dumpVideoNum_postProcessResults {rs : List CaptureResult} {cs : CaseState}
    {r : List Effect × CaseState} (h : cs.dumpInterval = 0)
    (hr : postProcessResults .videoOnly c streams rs cs = some r) :
    r.2.dumpVideoNum = cs.dumpVideoNum := by
  induction rs generalizing cs r with
  | nil =>
      obtain rfl := Option.some.inj hr
      rfl
  | cons result rs ih =>
      obtain ⟨r₁, hr₁, hr⟩ := Option.bind_eq_some_iff.mp hr
      obtain ⟨r₂, hr₂, rfl⟩ := Option.map_eq_some_iff.mp hr
      have h₁ := dumpVideoNum_capturePostProcess h hr₁
      exact (ih h₁.1 hr₂).trans h₁.2

theorem dumpsFrom_postProcessResults {rs : List CaptureResult} {cs : CaseState}
    {r : List Effect × CaseState} (h : cs.dumpInterval = 0)
    (hvideo : tc = .videoOnly → cs.dumpVideoNum = 0 ∨
      frames tc streams (rs.flatMap (·.outputBuffers)) .video = 0)
    (hr : postProcessResults tc c streams rs cs = some r) :
    DumpsFrom tc streams (rs.flatMap (·.outputBuffers)) cs r := by
  induction rs generalizing cs r with
  | nil =>
      obtain rfl := Option.some.inj hr
      exact .nil h
  | cons result rs ih =>
      obtain ⟨r₁, hr₁, hr⟩ := Option.bind_eq_some_iff.mp hr
      obtain ⟨r₂, hr₂, rfl⟩ := Option.map_eq_some_iff.mp hr
      have hnum : tc = .videoOnly → r₁.2.dumpVideoNum = cs.dumpVideoNum := by
        rintro rfl
        exact (dumpVideoNum_capturePostProcess h hr₁).2
      obtain ⟨hfirst, hrest⟩ := videoOnly_append hvideo hnum
      have h₁ := dumpsFrom_capturePostProcess h hfirst hr₁
      exact h₁.append (ih h₁.interval hrest hr₂)

/-- After `trigger_dump(n, 0)` and the frames in `bs`, `n` frames of each stream have been dumped,
or all there were, and each counter counts the frames of its own stream. -/
structure DumpsAsTriggered (tc : TestCase) (streams : List StreamPtr) (n : ℕ)
    (bs : List StreamBuffer) (r : List Effect × CaseState) : Prop where
  dumped : ∀ t k, t.dumpCounter = some k → dumps r.1 t = min n (frames tc streams bs t)
  counters : ∀ k, (r.2.dumpNum k).toNat = n - counterFrames tc streams bs k

theorem toNat_dumpNum_triggerDump {n : ℤ} (hn : 0 ≤ n) (hfits : FitsInt n) (cs : CaseState)
    (k : DumpCounter) : ((triggerDump n 0 cs).dumpNum k).toNat = n.toNat := by
  have hlt : n < 2 ^ 31 := hfits.2
  have hofInt : (UInt32.ofInt n).toNat = n.toNat := by
    rw [UInt32.ofInt, UInt32.toNat_ofNat_of_lt']
    · rw [Int.emod_eq_of_lt hn (by omega)]
    · simp only [UInt32.size]
      omega
  cases k <;> exact hofInt

/-- **The dumps of a trigger**: as many as ordered, each counted by the counter of its stream, in
every case but video-only; there as long as nothing is ordered or no video frame has come. -/
theorem dumpsAsTriggered_iff {n : ℤ} (hn : 0 ≤ n) (hfits : FitsInt n) {rs : List CaptureResult}
    {cs : CaseState} {r : List Effect × CaseState}
    (hr : postProcessResults tc c streams rs (triggerDump n 0 cs) = some r) :
    DumpsAsTriggered tc streams n.toNat (rs.flatMap (·.outputBuffers)) r ↔
      (tc = .videoOnly → n = 0 ∨ frames tc streams (rs.flatMap (·.outputBuffers)) .video = 0) := by
  have hnum := toNat_dumpNum_triggerDump hn hfits cs
  constructor
  · rintro ⟨-, hcounters⟩ rfl
    have hkept : (r.2.dumpNum .video).toNat = n.toNat :=
      (congrArg UInt32.toNat (dumpVideoNum_postProcessResults rfl hr)).trans (hnum .video)
    have hcount := hcounters .video
    rcases @frames_eq .videoOnly streams .video .video rfl with hzero | heq
    · exact Or.inr (hzero _)
    · rw [heq]
      omega
  · intro hvideo
    have hd := dumpsFrom_postProcessResults rfl
      (fun htc => (hvideo htc).imp_left fun h0 => by rw [h0]; rfl) hr
    refine ⟨fun t k hk => ?_, fun k => ?_⟩
    · rw [hd.dumped t k hk, hnum]
    · rw [hd.counters k, hnum]

end Loop

/-- Result `n`, with one buffer of the stream at address `1`. -/
def frameOfStream (n : ℕ) : CaptureResult := ⟨n, [⟨1, n⟩], 1⟩

theorem dumpsAsTriggered_previewVideo :
    ∃ r, postProcessResults .previewVideo {} [0, 1] [frameOfStream 0, frameOfStream 1]
        (triggerDump 1 0 {}) = some r ∧
      DumpsAsTriggered .previewVideo [0, 1] 1 [⟨1, 0⟩, ⟨1, 1⟩] r := by
  obtain ⟨r, hr⟩ : ∃ r, postProcessResults .previewVideo {} [0, 1]
      [frameOfStream 0, frameOfStream 1] (triggerDump 1 0 {}) = some r := ⟨_, rfl⟩
  exact ⟨r, hr, (dumpsAsTriggered_iff Int.one_nonneg (by decide) hr).mpr (by simp)⟩

/-- A video-only case goes on dumping after the one frame that was ordered. -/
theorem video_dumps_not_counted :
    ¬ ∀ (tc : TestCase) (c : QCamxConfig) (streams : List StreamPtr) (n : ℤ)
      (rs : List CaptureResult) (cs : CaseState) (r : List Effect × CaseState), 0 ≤ n →
      FitsInt n → postProcessResults tc c streams rs (triggerDump n 0 cs) = some r →
      DumpsAsTriggered tc streams n.toNat (rs.flatMap (·.outputBuffers)) r := by
  intro h
  have hd := (h .videoOnly {} [1] 1 [frameOfStream 0, frameOfStream 1] {} _ (by decide)
    (by decide) rfl).dumped .video .video rfl
  revert hd
  decide

end QCamx
