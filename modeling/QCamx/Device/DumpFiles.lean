import QCamx.Buffer.DumpName
import QCamx.Device.Served
import QCamx.Device.Snapshots
import QCamx.Dump

/-!
# The files of a case

`capture_post_process` dumps a frame under a type and its number, and `dump_frame` names the file
after both. A buffer is dumped at most once, under the type of its stream, and a case has one stream
of a type: so each file of a case is written once, although the clock of its name counts seconds and
several frames are dumped in one.

* `fileType`: the type under which the frames of a stream are dumped;
* `dumpedFrames_postProcessBuffer`: what one round of the callback's loop dumps;
* `dumpInv`: the dumps of a run are dumps of the buffers processed so far, in their order;
* **`files_distinct`**: no file of a case is overwritten by the same case.
-/

namespace QCamx

open Guarded

/-! ## Frames and types -/

/-- The number and the type of the frame that an effect dumps. -/
def Effect.dumpedFrame : Effect → Option (ℕ × StreamType)
  | dumpFrame _ frame type _ => some (frame, type)
  | _ => none

/-- The frames that some effects dump. -/
def dumpedFrames (effects : List Effect) : List (ℕ × StreamType) :=
  effects.filterMap Effect.dumpedFrame

/-- The type under which a case dumps the frames of its stream `index`, on a trigger or as a
picture. -/
def fileType (tc : TestCase) (index : ℕ) : Option StreamType :=
  match tc, index with
  | .previewSnapshot, 1 | .hal3TestVideo, 2 => some .snapshot
  | _, _ => dumpType tc index

theorem fileType_inj {tc : TestCase} {i j : ℕ} {t : StreamType} (hi : fileType tc i = some t)
    (hj : fileType tc j = some t) : i = j := by
  have hbound : ∀ {k}, fileType tc k = some t → k < 3 := by
    intro k hk
    by_contra hge
    obtain ⟨n, rfl⟩ : ∃ n, k = n + 3 := ⟨k - 3, by omega⟩
    cases tc <;> cases hk
  have hi3 := hbound hi
  have hj3 := hbound hj
  interval_cases i <;> interval_cases j <;> first | rfl | (cases tc <;> cases hi <;> cases hj)

section Body

variable (c : QCamxConfig) (cs : CaseState) (frame index : ℕ) (buffer : Buffer)

@[simp] theorem dumpedFrames_nil : dumpedFrames [] = [] := rfl

@[simp] theorem dumpedFrames_append (l l' : List Effect) :
    dumpedFrames (l ++ l') = dumpedFrames l ++ dumpedFrames l' :=
  List.filterMap_append

@[simp] theorem dumpedFrames_previewCallback :
    dumpedFrames (previewCallback cs frame buffer) = [] := by
  unfold previewCallback; split_ifs <;> rfl

@[simp] theorem dumpedFrames_snapshotCallback :
    dumpedFrames (snapshotCallback cs frame buffer) = [] := by
  unfold snapshotCallback; split_ifs <;> rfl

@[simp] theorem dumpedFrames_videoCallback :
    dumpedFrames (videoCallback cs frame buffer) = [] := by
  unfold videoCallback; split_ifs <;> rfl

@[simp] theorem dumpedFrames_showFps (type : StreamType) : dumpedFrames (showFps c type) = [] := by
  unfold showFps; split_ifs <;> rfl

@[simp] theorem dumpedFrames_returnBuffer (l : List Effect) :
    dumpedFrames (.returnBuffer index buffer :: l) = dumpedFrames l :=
  rfl

@[simp] theorem dumpedFrames_dumpFrame (type : StreamType) (subformat : Implsubformat)
    (l : List Effect) :
    dumpedFrames (.dumpFrame buffer frame type subformat :: l) = (frame, type) :: dumpedFrames l :=
  rfl

@[simp] theorem dumpedFrames_handOver (stop : Bool) :
    dumpedFrames
      (if stop then [.returnBuffer index buffer] else enqueueFrameBuffer c index buffer) =
      [] := by
  unfold enqueueFrameBuffer; split_ifs <;> rfl

@[simp] theorem dumpedFrames_hal3HandOver (stop : Bool) :
    dumpedFrames
      (if stop then [.returnBuffer index buffer] else hal3EnqueueFrameBuffer c index buffer) =
      [] := by
  unfold hal3EnqueueFrameBuffer; split_ifs <;> rfl

theorem dumpedFrames_dumpPreview (type : StreamType) :
    (dumpedFrames (dumpPreview c cs frame buffer type).1).Sublist [(frame, type)] := by
  unfold dumpPreview; split_ifs <;> simp

theorem dumpedFrames_dumpVideo (type : StreamType) :
    (dumpedFrames (dumpVideo c cs frame buffer type).1).Sublist [(frame, type)] := by
  unfold dumpVideo; split_ifs <;> simp

theorem dumpedFrames_dumpVideoOnly :
    (dumpedFrames (dumpVideoOnly c cs frame buffer).1).Sublist [(frame, .video)] := by
  unfold dumpVideoOnly; split_ifs <;> simp

end Body

/-- **One round of the callback's loop dumps at most the frame**, under the type of its stream. -/
theorem dumpedFrames_postProcessBuffer {tc : TestCase} {c : QCamxConfig} {cs : CaseState}
    {frame index : ℕ} {buffer : Buffer} {stream : CameraStream}
    (hs : (initStreams tc c).cameraStreams[index]? = some stream) :
    (dumpedFrames (postProcessBuffer c cs frame index buffer tc stream).1).Sublist
      ((fileType tc index).toList.map fun t => (frame, t)) := by
  have hid := streamId_initStreams tc c index stream hs
  have hlt : index < (initStreams tc c).cameraStreams.length :=
    (List.getElem?_eq_some_iff.mp hs).1
  have hle := length_cameraStreams tc c
  cases tc with
  | previewOnly =>
      simp only at hle
      obtain rfl : index = 0 := by omega
      obtain rfl : (⟨0, some .preview⟩ : CameraStream) = stream := Option.some.inj hs
      simpa [postProcessBuffer, previewOnlyBuffer, fileType, dumpType] using
        dumpedFrames_dumpPreview c cs frame buffer .preview
  | previewSnapshot =>
      simp only at hle
      obtain rfl | rfl : index = 0 ∨ index = 1 := by omega
      · obtain rfl : (⟨0, some .preview⟩ : CameraStream) = stream := Option.some.inj hs
        simpa [postProcessBuffer, previewSnapshotBuffer, fileType, dumpType] using
          dumpedFrames_dumpPreview c cs frame buffer .preview
      · obtain rfl : (⟨1, some .stillCapture⟩ : CameraStream) = stream := Option.some.inj hs
        simp only [postProcessBuffer, previewSnapshotBuffer]
        split_ifs <;> simp [fileType]
  | previewVideo =>
      simp only at hle
      obtain rfl | rfl : index = 0 ∨ index = 1 := by omega
      · simpa [postProcessBuffer, previewVideoBuffer, hid, fileType, dumpType] using
          dumpedFrames_dumpPreview c cs frame buffer .preview
      · simpa [postProcessBuffer, previewVideoBuffer, hid, fileType, dumpType] using
          dumpedFrames_dumpVideo c cs frame buffer .video
  | videoOnly =>
      simp only at hle
      obtain rfl : index = 0 := by omega
      obtain rfl : (⟨0, some .videoRecord⟩ : CameraStream) = stream := Option.some.inj hs
      simpa [postProcessBuffer, videoOnlyBuffer, fileType, dumpType] using
        dumpedFrames_dumpVideoOnly c cs frame buffer
  | hal3TestVideo =>
      simp only [maxStream] at hle
      obtain rfl | rfl | rfl | rfl : index = 0 ∨ index = 1 ∨ index = 2 ∨ index = 3 := by omega
      · simpa [postProcessBuffer, hal3TestVideoBuffer, hid, fileType, dumpType] using
          dumpedFrames_dumpPreview c cs frame buffer .preview
      · simpa [postProcessBuffer, hal3TestVideoBuffer, hid, fileType, dumpType] using
          dumpedFrames_dumpVideo c cs frame buffer .video
      · simp [postProcessBuffer, hal3TestVideoBuffer, hid, fileType]
      · simp [postProcessBuffer, hal3TestVideoBuffer, hid]
  | hal3TestDepth =>
      simp only at hle
      obtain rfl | rfl : index = 0 ∨ index = 1 := by omega
      · simpa [postProcessBuffer, hal3TestDepthBuffer, hid, fileType, dumpType] using
          dumpedFrames_dumpVideo c cs frame buffer .depth
      · simpa [postProcessBuffer, hal3TestDepthBuffer, hid, fileType, dumpType] using
          dumpedFrames_dumpPreview c cs frame buffer .irbg

/-- The name of the file that an effect writes of a buffer with the description `info`, at the local
time `t`. -/
def Effect.fileName (info : BufferInfo) (t : Tm) : Effect → Option CString
  | dumpFrame _ frame type subformat =>
      some (dumpFileName info (UInt32.ofNat frame) type subformat t)
  | _ => none

theorem dumpedFrame_eq_of_fileName {e e' : Effect} {info info' : BufferInfo} {t t' : Tm}
    {name : CString} (h : e.fileName info t = some name) (h' : e'.fileName info' t' = some name) :
    ∃ frame frame' type, e.dumpedFrame = some (frame, type) ∧
      e'.dumpedFrame = some (frame', type) ∧ UInt32.ofNat frame = UInt32.ofNat frame' := by
  cases e with
  | dumpFrame buffer frame type subformat =>
      cases e' with
      | dumpFrame buffer' frame' type' subformat' =>
          obtain ⟨rfl, -, -, hframe⟩ := dumpName_inj (Option.some.inj (h.trans h'.symm))
          exact ⟨frame, frame', type, rfl, rfl, hframe⟩
      | _ => cases h'
  | _ => cases h

namespace Device

variable {cfg : Setup} {s s' : Device}

/-! ## The dumps of a run -/

/-- The buffers of the result in the callback that it has not come to. -/
def remaining (s : Device) : List (ℕ × StreamBuffer) :=
  match s.resultPc with
  | .callback msg rest => rest.map fun b => (msg.result.frameNumber, b)
  | _ => []

/-- What is dumped of a frame of a stream, if anything is. -/
def fileOf (cfg : Setup) (f : ℕ × StreamPtr) : Option (ℕ × StreamType) :=
  ((findStreamIndex cfg.camera3Streams f.2).bind (fileType cfg.testCase)).map fun t => (f.1, t)

/-- The dumps so far are dumps of buffers that the callback has come to, in their order. -/
def DumpInv (cfg : Setup) (s : Device) : Prop :=
  ∃ done, s.log.delivered.flatMap tagged = done ++ s.remaining ∧
    (dumpedFrames s.log.effects).Sublist ((done.map frameOf).filterMap (fileOf cfg))

theorem fileOf_inj {f f' : ℕ × StreamPtr} {d : ℕ × StreamType} (h : fileOf cfg f = some d)
    (h' : fileOf cfg f' = some d) : f = f' := by
  obtain ⟨t, ht, rfl⟩ := Option.map_eq_some_iff.mp h
  obtain ⟨t', ht', he⟩ := Option.map_eq_some_iff.mp h'
  obtain ⟨hframe, rfl⟩ := Prod.mk.inj he
  obtain ⟨i, hi, hit⟩ := Option.bind_eq_some_iff.mp ht
  obtain ⟨j, hj, hjt⟩ := Option.bind_eq_some_iff.mp ht'
  obtain rfl := fileType_inj hit hjt
  have hstream := (getElem?_of_findStreamIndex hi).symm.trans (getElem?_of_findStreamIndex hj)
  exact Prod.ext hframe.symm (Option.some.inj hstream)

namespace DumpInv

theorem congr (h : DumpInv cfg s) (hdelivered : s'.log.delivered = s.log.delivered)
    (hremaining : s'.remaining = s.remaining) (heffects : s'.log.effects = s.log.effects) :
    DumpInv cfg s' := by
  unfold DumpInv at h ⊢
  rwa [hdelivered, hremaining, heffects]

theorem callback (h : DumpInv cfg s) {msg : CameraPostProcessMsg} {b : StreamBuffer}
    {rest : List StreamBuffer} {effects : List Effect} {caseState : CaseState}
    (hpc : s.resultPc = .callback msg (b :: rest))
    (heff : postProcessStep cfg.testCase cfg.config cfg.camera3Streams cfg.cameraStreams
      msg.result.frameNumber b s.caseState = some (effects, caseState))
    (hdelivered : s'.log.delivered = s.log.delivered) (hpc' : s'.resultPc = .callback msg rest)
    (heffects : s'.log.effects = s.log.effects ++ effects) : DumpInv cfg s' := by
  obtain ⟨done, hdone, hsub⟩ := h
  obtain ⟨index, hindex, heff⟩ := Option.bind_eq_some_iff.mp heff
  obtain ⟨stream, hstream, heff⟩ := Option.map_eq_some_iff.mp heff
  have hround : (dumpedFrames (postProcessBuffer cfg.config s.caseState msg.result.frameNumber index
      b.buffer cfg.testCase stream).1).Sublist _ := dumpedFrames_postProcessBuffer hstream
  rw [heff] at hround
  refine ⟨done ++ [(msg.result.frameNumber, b)], ?_, ?_⟩
  · simp only [remaining, hpc, hpc', hdelivered, List.map_cons] at hdone ⊢
    rw [hdone, List.append_assoc, List.singleton_append]
  · rw [heffects, dumpedFrames_append, List.map_append, List.filterMap_append]
    refine hsub.append (hround.trans ?_)
    simp only [List.map_cons, List.map_nil, frameOf, fileOf, List.filterMap_cons, hindex,
      Option.bind_some, List.filterMap_nil]
    cases fileType cfg.testCase index <;> simp

theorem result {a : ResultAct} (h : DumpInv cfg s)
    (hstreams : s.camera3Streams = cfg.camera3Streams) (hs : ResultStep cfg s a s') :
    DumpInv cfg s' := by
  cases hs with
  | @callback msg b rest effects caseState hpc heff =>
      obtain ⟨managers, encoder, he⟩ := foldl_applyEffect effects s
      rw [hstreams] at heff
      rw [he]
      exact h.callback hpc heff rfl rfl rfl
  | @pop a act q msg l hpc hheld ha hact hq hitems hmsg =>
      obtain ⟨done, hdone, hsub⟩ := h
      refine ⟨done, ?_, hsub⟩
      simp only [remaining, hpc, List.append_nil] at hdone
      simp [remaining, hdone, tagged]
  | popStop hpc | giveBack hpc | giveBackDone hpc | callbackInternal hpc | callbackExternal hpc =>
      exact h.congr rfl (by simp [remaining, hpc]) rfl
  | wait | wakeEmpty | callbackUnknown | giveBackUnknown => exact h.congr rfl rfl rfl

theorem step {a : Act} (h : DumpInv cfg s)
    (hstreams : s.resultPc ≠ .exited → s.camera3Streams = cfg.camera3Streams)
    (hs : Step cfg s a s') : DumpInv cfg s' := by
  have hpc : ∀ {t : Device}, t.resultPc = s.resultPc → t.remaining = s.remaining := by
    intro t ht
    simp only [remaining, ht]
  cases hs with
  | request hs => exact h.congr hs.frame.delivered (hpc hs.frame.resultPc) (by cases hs <;> rfl)
  | hal hs => exact h.congr hs.frame.delivered (hpc hs.frame.resultPc) (by cases hs <;> rfl)
  | result hs => exact h.result (hstreams hs.ne_exited) hs
  | encoderReturn => exact h.congr rfl rfl rfl
  | stop hs =>
      have hf := hs.frame
      exact h.congr (by rw [hf.log]) (hpc hf.resultPc) (by rw [hf.log])
  | user hs =>
      have hf := hs.frame
      exact h.congr (by rw [hf.log]) (hpc hf.resultPc) (by rw [hf.log])

end DumpInv

theorem dumpInv {ok : Act → Device → Prop} (h : Run cfg ok s) : DumpInv cfg s := by
  refine h.invariant (P := DumpInv cfg) ⟨[], rfl, List.nil_sublist _⟩
    fun s a s' hr hi _ _ hs => hi.step (fun hne => ?_) hs
  have hstages := stages hr
  apply hstages.streams
  by_contra hge
  exact hne (hstages.result (by omega))

/-- **A frame is dumped once** under a type. -/
theorem nodup_dumpedFrames (h : Run cfg HalContract s) : (dumpedFrames s.log.effects).Nodup := by
  obtain ⟨done, hdone, hsub⟩ := dumpInv h
  have hserved : ((s.log.delivered.flatMap tagged).map frameOf).Nodup :=
    Service.nodup_map_served (refines h fun _ _ hok => hok) (nodup_ordered h)
  rw [hdone, List.map_append] at hserved
  exact (hserved.of_append_left.filterMap fun f f' d hd hd' => fileOf_inj hd hd').sublist hsub

/-! ## Frame numbers are `int`s -/

theorem Step.frameNumber {a : Act} (hs : Step cfg s a s') :
    s'.requestThread.frameNumber = s.requestThread.frameNumber ∨
      FitsInt s'.requestThread.frameNumber := by
  cases hs with
  | request hs =>
      cases hs with
      | returnAccepted hpc hfits => exact Or.inr (by exact_mod_cast hfits)
      | _ => exact Or.inl rfl
  | hal hs => exact Or.inl (by rw [hs.frame.requestThread])
  | result hs => exact Or.inl (by rw [hs.frame.requestThread])
  | encoderReturn => exact Or.inl rfl
  | stop hs => exact Or.inl hs.frame.frameNumber
  | user hs => exact Or.inl hs.frame.frameNumber

theorem frames_fit {ok : Act → Device → Prop} (h : Run cfg ok s) :
    FitsInt s.requestThread.frameNumber ∧ ∀ x ∈ s.log.submitted, FitsInt x.frameNumber := by
  have hzero : FitsInt ((0 : ℕ) : ℤ) := by simp [FitsInt]
  refine h.invariant (P := fun s => FitsInt s.requestThread.frameNumber ∧
    ∀ x ∈ s.log.submitted, FitsInt x.frameNumber) ⟨hzero, by simp [Setup.init]⟩
    fun s a s' _ hi _ _ hs => ⟨?_, ?_⟩
  · rcases hs.frameNumber with he | hfits
    · rw [he]
      exact hi.1
    · exact hfits
  · rcases hs.submitted with hsame | ⟨selected, buffers, accepted, -, hsub⟩
    · rw [hsame]
      exact hi.2
    · intro x hx
      rw [hsub] at hx
      rcases List.mem_append.mp hx with hx | hx
      · exact hi.2 x hx
      · obtain rfl := List.mem_singleton.mp hx
        exact hi.1

theorem dumped_fits (h : Run cfg HalContract s) {d : ℕ × StreamType}
    (hd : d ∈ dumpedFrames s.log.effects) : FitsInt d.1 := by
  obtain ⟨done, hdone, hsub⟩ := dumpInv h
  obtain ⟨f, hf, hfile⟩ := List.mem_filterMap.mp (hsub.subset hd)
  obtain ⟨p, hp, rfl⟩ := List.mem_map.mp hf
  obtain ⟨t, -, rfl⟩ := Option.map_eq_some_iff.mp hfile
  have hserved : p ∈ s.service.served := by
    show p ∈ s.log.delivered.flatMap tagged
    rw [hdone]
    exact List.mem_append_left _ hp
  have hordered := (Service.served_subperm (refines h fun _ _ hok => hok)).subset hserved
  obtain ⟨x, hx, hpx⟩ := List.mem_flatMap.mp hordered
  unfold ordersOf at hpx
  split_ifs at hpx with hacc
  · obtain ⟨b, -, rfl⟩ := List.mem_map.mp hpx
    exact (frames_fit h).2 x hx
  · cases hpx

/-! ## The files of a run -/

/-- The files that a case wrote, where `info` describes the buffer of its `k`-th effect and `clock`
is the local time then. -/
def files (s : Device) (info : ℕ → BufferInfo) (clock : ℕ → Tm) : List CString :=
  s.log.effects.zipIdx.filterMap fun p => p.1.fileName (info p.2) (clock p.2)

/-- **No file is overwritten**, whatever the sizes of the buffers and whatever the clock says. -/
theorem files_distinct (h : Run cfg HalContract s) (info : ℕ → BufferInfo) (clock : ℕ → Tm) :
    (s.files info clock).Nodup := by
  have hnodup : (s.log.effects.zipIdx.filterMap fun p => p.1.dumpedFrame).Nodup := by
    have hdumped := nodup_dumpedFrames h
    rw [dumpedFrames, ← List.zipIdx_map_fst 0 s.log.effects, List.filterMap_map] at hdumped
    exact hdumped
  refine List.pairwise_filterMap.mpr
    ((List.pairwise_filterMap.mp hnodup).imp_of_mem ?_)
  rintro ⟨e, k⟩ ⟨e', k'⟩ hmem hmem' hne name hname name' hname' rfl
  obtain ⟨frame, frame', type, hd, hd', hframe⟩ := dumpedFrame_eq_of_fileName hname hname'
  have hfits : ∀ {e : Effect} {k n : ℕ}, (e, k) ∈ s.log.effects.zipIdx →
      e.dumpedFrame = some (n, type) → FitsInt (n : ℤ) := by
    intro e k n hmem he
    exact dumped_fits h (List.mem_filterMap.mpr ⟨e, List.fst_mem_of_mem_zipIdx hmem, he⟩)
  have hlt := (hfits hmem hd).2
  have hlt' := (hfits hmem' hd').2
  refine hne _ hd _ hd' ?_
  have hmod := congrArg UInt32.toNat hframe
  rw [UInt32.toNat_ofNat', UInt32.toNat_ofNat', Nat.mod_eq_of_lt (by omega),
    Nat.mod_eq_of_lt (by omega)] at hmod
  rw [hmod]

/-- Two frames of `previewSetup` are dumped in one second. -/
theorem files_distinct_two :
    ∃ s, Run (previewSetup 2) HalContract s ∧
      dumpedFrames s.log.effects = [(0, .preview), (1, .preview)] ∧
      (s.files (fun _ => ⟨0, 1920, 1080, 1920, 1080, 35⟩)
        fun _ => ⟨124, 0, 1, 12, 0, 0⟩).Nodup := by
  obtain ⟨s, hr, hdumped⟩ : ∃ s, Run (previewSetup 2) HalContract s ∧
      dumpedFrames s.log.effects = [(0, .preview), (1, .preview)] :=
    Run.exists_of_exec
      (.user (.triggerDump 2 0) :: acceptRequest ++ acceptRequest ++ deliverResult resultZero ++
        deliverResult ⟨1, [⟨1, 1⟩], 1⟩ ++
        [.take, .callback, .callback, .giveBack, .giveBack, .take, .callback].map .result)
      (by decide +kernel)
  exact ⟨s, hr, hdumped, files_distinct hr _ _⟩

end Device

end QCamx
