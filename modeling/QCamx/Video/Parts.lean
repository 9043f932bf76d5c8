import QCamx.Video.Step

/-!
# The parts of a video case

A video case does nothing that its device and its encoder could not do on their own, and neither
part keeps the other from a step. So what holds of every run of a device, and of every run of an
encoder with its frames, holds of the parts of a video case.

* `Effect.enqueued`: what a callback hands to the encoder;
* `StageLink`, `Linked`: what ties the parts together;
* **`Parts`, `parts`**: in every run the parts are linked, and each has made a run of its own;
* `not_blocked`: the encoder's side of a shared thread is always ready.
-/

namespace QCamx

open Guarded

/-! ## The hand-over of the callback -/

/-- The buffer that an effect hands to the encoder. -/
def Effect.enqueued : Effect → Option (ℕ × Buffer)
  | enqueueFrameBuffer index buffer => some (index, buffer)
  | previewCb .. | snapshotCb .. | videoCb .. | dumpFrame .. | returnBuffer .. | showFps .. => none

@[simp] theorem Effect.enqueued_returnBuffer (index : ℕ) (buffer : Buffer) :
    (returnBuffer index buffer).enqueued = none := rfl

@[simp] theorem Effect.enqueued_enqueueFrameBuffer (index : ℕ) (buffer : Buffer) :
    (enqueueFrameBuffer index buffer).enqueued = some (index, buffer) := rfl

theorem enqueued_of_givesUp {effects : List Effect}
    (h : effects.filterMap Effect.givesUp = []) : effects.filterMap Effect.enqueued = [] := by
  refine List.filterMap_eq_nil_iff.mpr fun e he => ?_
  have hgives := List.filterMap_eq_nil_iff.mp h e he
  cases e with
  | enqueueFrameBuffer => cases hgives
  | _ => rfl

theorem Device.encoder_foldl (effects : List Effect) (s : Device) :
    (effects.foldl applyEffect s).encoder = s.encoder ++ effects.filterMap Effect.enqueued := by
  induction effects generalizing s with
  | nil => simp
  | cons e effects ih =>
      rw [List.foldl_cons, ih]
      cases e <;> simp [applyEffect, returnBuffer, Effect.enqueued, List.filterMap_cons]

namespace VideoSetup

variable (cfg : VideoSetup)

theorem idxOf_eq_iff {b : StreamBuffer} (hb : b.stream ∈ cfg.device.camera3Streams) :
    cfg.device.camera3Streams.idxOf b.stream = cfg.videoIndex ↔ cfg.IsVideo b := by
  have hlt := List.idxOf_lt_length_of_mem hb
  have hget : cfg.device.camera3Streams[cfg.device.camera3Streams.idxOf b.stream]? =
      some b.stream := by
    rw [List.getElem?_eq_getElem hlt, List.getElem_idxOf hlt]
  constructor
  · intro h
    rw [IsVideo, ← h]
    exact hget
  · intro h
    obtain ⟨hlt', -⟩ := List.getElem?_eq_some_iff.mp h
    exact ((List.getElem?_inj hlt' cfg.device.nodup_streams).mp (h.trans hget.symm)).symm

theorem enqueued_postProcessBuffer {frame index : ℕ} {buffer : Buffer} {cs : CaseState}
    {stream : CameraStream} (hs : cfg.device.cameraStreams[index]? = some stream) :
    (postProcessBuffer cfg.device.config cs frame index buffer cfg.device.testCase
      stream).1.filterMap Effect.enqueued =
      if index = cfg.videoIndex ∧ cs.stop = false then [(index, buffer)] else [] := by
  rw [Setup.cameraStreams] at hs
  have hid := streamId_initStreams _ _ index stream hs
  have hlt := (List.getElem?_eq_some_iff.mp hs).1
  have hle := length_cameraStreams cfg.device.testCase cfg.device.config
  have hcb := enqueued_of_givesUp (givesUp_videoCallback cs frame buffer)
  have hfps := enqueued_of_givesUp (givesUp_showFps cfg.device.config .video)
  rw [cfg.testCase] at hs hlt hle ⊢
  cases hv : cfg.encoder.videoOnly with
  | true =>
      have hdump := enqueued_of_givesUp (givesUp_dumpVideoOnly cfg.device.config cs frame buffer)
      simp only [hv, if_true] at hs hlt hle ⊢
      obtain rfl : index = 0 := by omega
      obtain rfl : (⟨0, some .videoRecord⟩ : CameraStream) = stream := Option.some.inj hs
      cases hstop : cs.stop <;>
        simp [postProcessBuffer, videoOnlyBuffer, enqueueFrameBuffer, videoIndex, hv, hstop, hcb,
          hfps, hdump, cfg.enableVideoEncoder, List.filterMap_cons, -List.filterMap_eq_nil_iff]
  | false =>
      have hdump :=
        enqueued_of_givesUp (givesUp_dumpVideo cfg.device.config cs frame buffer .video)
      have hpreview :=
        enqueued_of_givesUp (givesUp_dumpPreview cfg.device.config cs frame buffer .preview)
      have hpreviewCb := enqueued_of_givesUp (givesUp_previewCallback cs frame buffer)
      have hpreviewFps := enqueued_of_givesUp (givesUp_showFps cfg.device.config .preview)
      simp only [hv, Bool.false_eq_true, if_false] at hs hlt hle ⊢
      have hi : index = 0 ∨ index = 1 := by omega
      rcases hi with rfl | rfl
      · simp [postProcessBuffer, previewVideoBuffer, videoIndex, hv, hid, hpreview, hpreviewCb,
          hpreviewFps, List.filterMap_cons, -List.filterMap_eq_nil_iff]
      · cases hstop : cs.stop <;>
          simp [postProcessBuffer, previewVideoBuffer, enqueueFrameBuffer, videoIndex, hv, hid,
            hstop, hcb, hfps, hdump, cfg.enableVideoEncoder, List.filterMap_cons,
            -List.filterMap_eq_nil_iff]

/-- **A callback hands the buffers of the video stream over, until it sees `_stop`.** -/
theorem enqueued_postProcessStep {frame : ℕ} {b : StreamBuffer} {cs cs' : CaseState}
    {effects : List Effect}
    (h : postProcessStep cfg.device.testCase cfg.device.config cfg.device.camera3Streams
      cfg.device.cameraStreams frame b cs = some (effects, cs')) :
    cs'.stop = cs.stop ∧ effects.filterMap Effect.enqueued =
      if cfg.IsVideo b ∧ cs.stop = false then [(cfg.videoIndex, b.buffer)] else [] := by
  obtain ⟨index, hindex, h⟩ := Option.bind_eq_some_iff.mp h
  obtain ⟨stream, hstream, h⟩ := Option.map_eq_some_iff.mp h
  have hmem : b.stream ∈ cfg.device.camera3Streams := by
    by_contra hnot
    rw [findStreamIndex, List.idxOf?_eq_none_iff.mpr hnot] at hindex
    cases hindex
  rw [findStreamIndex_of_mem hmem] at hindex
  obtain rfl := Option.some.inj hindex
  have heffects := congrArg Prod.fst h
  have hcs := congrArg Prod.snd h
  simp only at heffects hcs
  refine ⟨by rw [← hcs, stop_postProcessBuffer], ?_⟩
  have hvideo := cfg.idxOf_eq_iff hmem
  rw [← heffects, cfg.enqueued_postProcessBuffer hstream]
  by_cases h : cfg.IsVideo b
  · simp [h, hvideo.mpr h]
  · simp [h, mt hvideo.mp h]

theorem not_isVideo_of_unknown {frame : ℕ} {b : StreamBuffer} {cs : CaseState}
    (h : postProcessStep cfg.device.testCase cfg.device.config cfg.device.camera3Streams
      cfg.device.cameraStreams frame b cs = none) : ¬ cfg.IsVideo b := by
  intro hvideo
  obtain ⟨effects, caseState, hsome, -⟩ := postProcessStep_spec
    cfg.device.length_camera3Streams_le frame (List.mem_of_getElem? hvideo) cs
  exact absurd (hsome.symm.trans h) (by simp)

end VideoSetup

namespace Video

/-! ## The link -/

/-- Where `stop` of the encoder is when that of the device is at a point. -/
def StageLink : StopPc → VideoStopPc → Prop
  | .running, p => p = .running
  | .postRequest, p => 1 ≤ Encoder.stage p ∧ Encoder.stage p ≤ 5
  | .joinRequest, p | .postResult, p | .joinResult, p => p = .joinResult
  | .drain _, p | .waitPending _, p | .delete, p => p = .delete
  | .stopped, p => p = .stopped

/-- What ties the parts together. -/
structure Linked (cfg : VideoSetup) (v : Video) : Prop where
  manager : ∀ t ∈ v.device.encoder, t.1 = cfg.videoIndex
  buffers : ∀ b, v.device.encoder.count (cfg.videoIndex, b) + v.encoder.returned.count b =
    v.encoder.enqueued.count b + v.encoder.resultPc.frame.toList.count b
  stop : v.device.caseState.stop = v.encoder.stop
  stage : StageLink v.device.stopPc v.encoder.stopPc
  exited : v.device.resultPc = .exited ↔ v.encoder.resultPc = .exited

variable {cfg : VideoSetup} {v : Video}

@[simp] theorem deviceTo_device (a : Act) (d : Device) : (v.deviceTo cfg a d).device = d := by
  unfold deviceTo
  split <;> rfl

@[simp] theorem deviceTo_encoder (a : Act) (d : Device) :
    (v.deviceTo cfg a d).encoder = v.encoder := by
  unfold deviceTo
  split <;> rfl

@[simp] theorem deviceTo_frames (a : Act) (d : Device) :
    (v.deviceTo cfg a d).frames = v.frames := by
  unfold deviceTo
  split <;> rfl

@[simp] theorem deviceTo_memory (a : Act) (d : Device) :
    (v.deviceTo cfg a d).memory = v.memory := by
  unfold deviceTo
  split <;> rfl

theorem Linked.count_encoder (h : Linked cfg v) (hcustody : Encoder.Custody v.encoder)
    (b : Buffer) : v.device.encoder.count (cfg.videoIndex, b) =
      (v.encoder.outstanding ++ v.encoder.resultPc.frame.toList).count b := by
  have hbuffers := h.buffers b
  have hcount := hcustody.count_eq b
  rw [List.count_append] at hcount ⊢
  omega

/-! ## The encoder on its own -/

/-- What the encoder's own actions do to the link. -/
structure OwnFrame (s s' : Encoder) (a : EncoderAct) : Prop where
  frames : s'.enqueued ++ s'.resultPc.frame.toList = s.enqueued ++ s.resultPc.frame.toList
  returned : s'.returned = s.returned ++ (returnsBuffer s s' a).toList
  stop : s'.stop = s.stop
  exited : s'.resultPc = .exited ↔ s.resultPc = .exited
  stage : ∀ p, StageLink p s.stopPc → StageLink p s'.stopPc

variable {s s' : Encoder}

theorem ownFrame {a : EncoderAct} (hown : ownAct a = true) (hfault : s.fault = none)
    (hs : Encoder.Step cfg.encoder s a s') : OwnFrame s s' a := by
  have hnone : ∀ a, returnsBuffer s s' a = none → s.returned =
      s.returned ++ (returnsBuffer s s' a).toList := by
    intro a ha
    simp [ha]
  cases hs with
  | start | emptyDone => exact ⟨rfl, hnone _ rfl, rfl, Iff.rfl, fun _ => id⟩
  | @inFlight a _ hs =>
      cases hs with
      | takeRead | takeExit | nullBuffer | readExit | timeout | accept | reject =>
          exact ⟨rfl, hnone _ rfl, rfl, Iff.rfl, fun _ => id⟩
      | deletedQueue =>
          refine ⟨rfl, hnone _ ?_, rfl, Iff.rfl, fun _ => id⟩
          cases a <;> rfl
      | deletedManager => exact ⟨rfl, hnone _ rfl, rfl, Iff.rfl, fun _ => id⟩
      | waitFrame hseeks | popFrame hseeks =>
          obtain ⟨rfl, -⟩ | ⟨w, rfl, -⟩ := hseeks <;>
            exact ⟨rfl, hnone _ rfl, rfl, Iff.rfl, fun _ => id⟩
      | copy hpc =>
          refine ⟨rfl, ?_, rfl, Iff.rfl, fun _ => id⟩
          simp [returnsBuffer, hfault, hpc, InFlightPc.frame]
  | result hs =>
      cases hs with
      | returnBuffer | deliver | exit => cases hown
      | deletedQueue => exact ⟨rfl, hnone _ rfl, rfl, Iff.rfl, fun _ => id⟩
      | push signalled hpc =>
          exact ⟨by simp [hpc, VideoResultPc.frame], hnone _ rfl, rfl, by simp [hpc], fun _ => id⟩
  | stop hs =>
      cases hs with
      | beginVideoOnly | begin | joinResult | delete => cases hown
      | flush hpc | postExit hpc | joinInFlight hpc | drain hpc | deleteQueue hpc =>
          refine ⟨rfl, hnone _ rfl, rfl, Iff.rfl, fun p hp => ?_⟩
          rw [hpc] at hp
          cases p <;> simp_all [StageLink]
      | giveBack hpc =>
          refine ⟨rfl, by simp [returnsBuffer, hpc, VideoStopPc.frame], rfl, Iff.rfl,
            fun p hp => ?_⟩
          rw [hpc] at hp
          cases p <;> simp_all [StageLink]

theorem Linked.mem_encoder (h : Linked cfg v) (hcustody : Encoder.Custody v.encoder)
    {a : EncoderAct} {b : Buffer} (hb : returnsBuffer v.encoder s' a = some b) :
    (cfg.videoIndex, b) ∈ v.device.encoder := by
  rw [← List.count_pos_iff, h.count_encoder hcustody, List.count_pos_iff, List.mem_append]
  left
  unfold returnsBuffer at hb
  split at hb
  · split_ifs at hb
    simp [Encoder.outstanding, hb]
  · simp [Encoder.outstanding, hb]
  all_goals cases hb

theorem Linked.encoder {a : EncoderAct} (h : Linked cfg v) (hcustody : Encoder.Custody v.encoder)
    (hown : OwnFrame v.encoder s' a) :
    Linked cfg { v.encoderTo cfg a s' with
      device := returnFrame cfg (returnsBuffer v.encoder s' a) v.device } := by
  have hframes : ∀ b, s'.enqueued.count b + s'.resultPc.frame.toList.count b =
      v.encoder.enqueued.count b + v.encoder.resultPc.frame.toList.count b := by
    intro b
    rw [← List.count_append, ← List.count_append, hown.frames]
  cases hret : returnsBuffer v.encoder s' a with
  | none =>
      have hreturned := hown.returned
      rw [hret] at hreturned
      refine ⟨h.manager, fun b => ?_, h.stop.trans hown.stop.symm, hown.stage _ h.stage,
        h.exited.trans hown.exited.symm⟩
      have hbuffers := h.buffers b
      have hb := hframes b
      simp only [encoderTo, returnFrame, hreturned, Option.toList_none, List.append_nil]
      omega
  | some c =>
      have hreturned := hown.returned
      rw [hret] at hreturned
      have hmem := h.mem_encoder hcustody hret
      refine ⟨fun t ht => h.manager t (List.mem_of_mem_erase ht), fun b => ?_,
        h.stop.trans hown.stop.symm, hown.stage _ h.stage, h.exited.trans hown.exited.symm⟩
      have hbuffers := h.buffers b
      have hb := hframes b
      have herase := (List.perm_cons_erase hmem).count_eq (cfg.videoIndex, b)
      simp only [encoderTo, returnFrame, hreturned, Option.toList_some, List.count_append,
        List.count_cons, List.count_nil, beq_iff_eq, Prod.mk.injEq, true_and] at herase ⊢
      omega

/-! ## The device on its own -/

theorem Linked.device {a : Act} {d : Device} (h : Linked cfg v)
    (hstreams : v.device.resultPc ≠ .exited →
      v.device.camera3Streams = cfg.device.camera3Streams)
    (hin : v.inDevice a = true) (hact : v.encoderAct cfg d a = none)
    (hs : Device.Step cfg.device v.device a d) : Linked cfg (v.deviceTo cfg a d) := by
  have hcongr : d.encoder = v.device.encoder → d.caseState.stop = v.device.caseState.stop →
      StageLink d.stopPc v.encoder.stopPc → (d.resultPc = .exited ↔ v.device.resultPc = .exited) →
      Linked cfg (v.deviceTo cfg a d) := by
    intro hencoder hstop hstage hexited
    constructor
    · simpa [hencoder] using h.manager
    · simpa [hencoder] using h.buffers
    · simpa [hstop] using h.stop
    · simpa using hstage
    · simpa [hexited] using h.exited
  cases hs with
  | request hs =>
      have hf := hs.frame
      exact hcongr hf.encoder (by rw [hf.caseState]) (by rw [hf.stopPc]; exact h.stage)
        (by rw [hf.resultPc])
  | hal hs =>
      have hf := hs.frame
      exact hcongr hf.encoder (by rw [hf.caseState]) (by rw [hf.stopPc]; exact h.stage)
        (by rw [hf.resultPc])
  | user hs =>
      have hf := hs.frame
      exact hcongr hf.encoder hf.stop (by rw [hf.stopPc]; exact h.stage) (by rw [hf.resultPc])
  | encoderReturn => cases hin
  | stop hs =>
      have hf := hs.frame
      have hstage := h.stage
      cases hs with
      | begin | joinResult | delete => cases hact
      | postRequest hpc =>
          have hjoin : v.encoder.stopPc = .joinResult := by simpa [inDevice] using hin
          exact hcongr rfl rfl hjoin Iff.rfl
      | joinRequest hpc | postResult hpc | drained hpc | drainWait hpc | forcedClear hpc
      | timeout hpc | wake hpc =>
          rw [hpc] at hstage
          exact hcongr rfl rfl hstage Iff.rfl
  | @result a _ hs =>
      have hf := hs.frame
      have hne := hs.ne_exited
      have hstreams := hstreams hne
      have hstage : StageLink d.stopPc v.encoder.stopPc := by
        rw [hf.stopPc]
        exact h.stage
      cases hs with
      | wait | wakeEmpty => exact hcongr rfl rfl hstage Iff.rfl
      | popStop hpc hheld ha htake =>
          cases a <;> simp_all [encoderAct, Device.takeAct]
      | pop hpc => exact hcongr rfl rfl hstage (by simp [hpc])
      | @callback msg b rest effects caseState hpc heff =>
          have hnot : ¬ cfg.IsVideo b := by
            intro hvideo
            simp [encoderAct, hpc, hvideo] at hact
          rw [hstreams] at heff
          obtain ⟨hstop, henqueued⟩ := cfg.enqueued_postProcessStep heff
          rw [if_neg fun hboth => hnot hboth.1] at henqueued
          refine hcongr ?_ hstop hstage (by simp [hpc])
          exact (Device.encoder_foldl effects v.device).trans (by rw [henqueued, List.append_nil])
      | callbackUnknown => exact hcongr rfl rfl hstage Iff.rfl
      | callbackInternal hpc | callbackExternal hpc | giveBack hpc | giveBackDone hpc =>
          exact hcongr rfl rfl hstage (by simp [hpc])
      | giveBackUnknown => exact hcongr rfl rfl hstage Iff.rfl

/-! ## The shared threads -/

/-- The steps of the device in which a shared thread does something on the encoder's side too. -/
inductive SharedStep (cfg : VideoSetup) (v : Video) (d : Device) : EncoderAct → Prop
  | deliver {b : Buffer} (hpc : v.device.resultPc ≠ .exited) (hpc' : d.resultPc ≠ .exited)
      (hencoder : d.encoder = v.device.encoder ++
        if v.device.caseState.stop = false then [(cfg.videoIndex, b)] else [])
      (hstop : d.caseState.stop = v.device.caseState.stop)
      (hstage : d.stopPc = v.device.stopPc) : SharedStep cfg v d (.result (.deliver b))
  | exit (hpc : v.device.resultPc ≠ .exited) (hpc' : d.resultPc = .exited)
      (hencoder : d.encoder = v.device.encoder) (hstop : d.caseState = v.device.caseState)
      (hstage : v.device.stopPc = .joinResult) (hstage' : d.stopPc = .joinResult) :
      SharedStep cfg v d (.result .exit)
  | begin (hstage : v.device.stopPc = .running)
      (hd : d = { v.device with
        caseState := Device.setStop cfg.device.testCase v.device.caseState
        stopPc := .postRequest }) : SharedStep cfg v d (.stop .begin)
  | joinResult (hstage : v.device.stopPc = .joinResult) (hpc : v.device.resultPc = .exited)
      (hd : d = { v.device with stopPc := .drain 5 }) : SharedStep cfg v d (.stop .joinResult)
  | delete (hstage : v.device.stopPc = .delete) (hencoder : d.encoder = v.device.encoder)
      (hstop : d.caseState = v.device.caseState) (hpc : d.resultPc = v.device.resultPc)
      (hstage' : d.stopPc = .stopped) : SharedStep cfg v d (.stop .delete)

variable {ok : Act → Device → Prop}

theorem stopPc_of_popStop {a : ResultAct} {d : Device} (hr : Device.Run cfg.device ok v.device)
    (hs : Device.ResultStep cfg.device v.device a d) (hexit : d.resultPc = .exited) :
    v.device.stopPc = .joinResult := by
  have hst := Device.stages hr
  have hlt : v.device.stopPc.stage < 5 := by
    by_contra hle
    exact hs.ne_exited (hst.result (by omega))
  have hge : 4 ≤ v.device.stopPc.stage := by
    cases hs with
    | popStop hpc hheld ha hact hq hitems hmsg =>
        refine hst.stopped.mp ((Device.deliveryInv hr).pushed.eq_stopMsg ?_ hmsg).2
        rw [Device.fifo_messageQueue hr, hitems]
        simp
    | wait hpc | wakeEmpty hpc | callbackUnknown hpc | giveBackUnknown hpc =>
        have hpc' : v.device.resultPc = .exited := hexit
        rw [hpc] at hpc'
        cases hpc'
    | pop | callback | callbackInternal | callbackExternal | giveBack | giveBackDone => cases hexit
  cases hpc : v.device.stopPc <;> simp_all

theorem sharedStep {a : Act} {d : Device} {e : EncoderAct}
    (hr : Device.Run cfg.device ok v.device) (hact : v.encoderAct cfg d a = some e)
    (hs : Device.Step cfg.device v.device a d) : SharedStep cfg v d e := by
  cases hs with
  | request | hal | encoderReturn | user => cases hact
  | stop hs =>
      cases hs with
      | begin hpc =>
          obtain rfl := Option.some.inj hact
          exact .begin hpc rfl
      | joinResult hpc hexit =>
          obtain rfl := Option.some.inj hact
          exact .joinResult hpc hexit rfl
      | delete hpc =>
          obtain rfl := Option.some.inj hact
          exact .delete hpc rfl rfl rfl rfl
      | postRequest | joinRequest | postResult | drained | drainWait | forcedClear | timeout
      | wake => cases hact
  | @result a _ hs =>
      have hne := hs.ne_exited
      have hlt : v.device.stopPc.stage < 7 := by
        by_contra hle
        exact hne ((Device.stages hr).result (by omega))
      have hstreams := (Device.stages hr).streams hlt
      have hjoin := stopPc_of_popStop hr hs
      have hf := hs.frame
      have hstay : v.device.resultPc = .top → d.resultPc ≠ .exited → SharedStep cfg v d e := by
        intro hpc hpc'
        cases a <;> simp_all [encoderAct]
      cases hs with
      | wait hpc | wakeEmpty hpc => exact hstay hpc hne
      | pop hpc => exact hstay hpc (by simp)
      | popStop hpc hheld ha htake =>
          have he : e = .result .exit := by cases a <;> simp_all [encoderAct, Device.takeAct]
          rw [he]
          exact .exit hne rfl rfl rfl (hjoin rfl) (hjoin rfl)
      | @callback msg b rest effects caseState hpc heff =>
          rw [hstreams] at heff
          obtain ⟨hstop, henqueued⟩ := cfg.enqueued_postProcessStep heff
          by_cases hvideo : cfg.IsVideo b
          · have he : e = .result (.deliver b.buffer) := by
              simpa [encoderAct, hpc, hvideo, eq_comm] using hact
            rw [he]
            refine .deliver hne (by simp) ?_ hstop hf.stopPc
            refine (Device.encoder_foldl effects v.device).trans ?_
            rw [henqueued]
            simp [hvideo]
          · simp [encoderAct, hpc, hvideo] at hact
      | callbackUnknown hpc heff =>
          rw [hstreams] at heff
          simp [encoderAct, hpc, cfg.not_isVideo_of_unknown heff] at hact
      | callbackInternal hpc | callbackExternal hpc => simp [encoderAct, hpc] at hact
      | giveBack | giveBackDone => simp [encoderAct] at hact
      | giveBackUnknown =>
          simp only [encoderAct, Option.ite_none_right_eq_some] at hact
          exact absurd hact.1 hne

theorem Linked.both {a : Act} {d : Device} {e : EncoderAct} (h : Linked cfg v)
    (hd : SharedStep cfg v d e) (he : Encoder.Step cfg.encoder v.encoder e s') :
    Linked cfg ((v.deviceTo cfg a d).encoderTo cfg e s') := by
  have hstage := h.stage
  have hstop := h.stop
  have hexited := h.exited
  cases hd with
  | @deliver b hpc hpc' hencoder hstop' hstage' =>
      have hne : v.encoder.resultPc ≠ .exited := fun hx => hpc (hexited.mpr hx)
      cases he with
      | result he =>
          cases he with
          | returnBuffer hidle hflag =>
              rw [hstop, hflag] at hencoder
              simp only [Bool.true_eq_false, if_false, List.append_nil] at hencoder
              constructor
              · simpa [encoderTo, hencoder] using h.manager
              · simpa [encoderTo, hencoder] using h.buffers
              · simpa [encoderTo, hstop'] using hstop
              · simpa [encoderTo, hstage'] using hstage
              · simpa [encoderTo, hpc'] using hne
          | deliver hidle hflag =>
              rw [hstop, hflag, if_pos rfl] at hencoder
              constructor
              · simpa [encoderTo, hencoder, or_imp, forall_and] using h.manager
              · intro c
                have hbuffers := h.buffers c
                simp [hidle, VideoResultPc.frame] at hbuffers
                simp [encoderTo, hencoder, VideoResultPc.frame, List.count_singleton]
                omega
              · simpa [encoderTo, hstop'] using hstop
              · simpa [encoderTo, hstage'] using hstage
              · simpa [encoderTo] using hpc'
  | exit hpc hpc' hencoder hcase hjoin hjoin' =>
      cases he with
      | result he =>
          cases he with
          | exit hidle hstopPc =>
              constructor
              · simpa [encoderTo, hencoder] using h.manager
              · simpa [encoderTo, hencoder, hidle, VideoResultPc.frame] using h.buffers
              · simpa [encoderTo, hcase] using hstop
              · simpa [encoderTo, hjoin', StageLink] using hstopPc
              · simpa [encoderTo] using hpc'
  | begin hrunning hd =>
      cases he with
      | stop he =>
          cases he with
          | beginVideoOnly hpc hvideo =>
              have htc := cfg.testCase
              rw [if_pos hvideo] at htc
              constructor
              · simpa [encoderTo, hd] using h.manager
              · simpa [encoderTo, hd] using h.buffers
              · simpa [encoderTo, hd, Device.setStop, htc] using hstop
              · simp [encoderTo, hd, StageLink]
              · simpa [encoderTo, hd] using hexited
          | begin hpc hvideo =>
              have htc := cfg.testCase
              rw [hvideo, if_neg Bool.false_ne_true] at htc
              constructor
              · simpa [encoderTo, hd] using h.manager
              · simpa [encoderTo, hd] using h.buffers
              · simp [encoderTo, hd, Device.setStop, htc]
              · simp [encoderTo, hd, StageLink]
              · simpa [encoderTo, hd] using hexited
  | joinResult hjoin hpc hd =>
      cases he with
      | stop he =>
          cases he with
          | joinResult hpc' =>
              constructor
              · simpa [encoderTo, hd] using h.manager
              · simpa [encoderTo, hd] using h.buffers
              · simpa [encoderTo, hd] using hstop
              · simp [encoderTo, hd, StageLink]
              · simpa [encoderTo, hd] using hexited
  | delete hdelete hencoder hcase hpc hstopped =>
      cases he with
      | stop he =>
          cases he with
          | delete hpc' =>
              constructor
              · simpa [encoderTo, hencoder] using h.manager
              · simpa [encoderTo, hencoder] using h.buffers
              · simpa [encoderTo, hcase] using hstop
              · simp [encoderTo, hstopped, StageLink]
              · simpa [encoderTo, hpc] using hexited

/-! ## Runs -/

/-- What holds of the parts of a video case. -/
structure Parts (cfg : VideoSetup) (ok : Act → Device → Prop) (v : Video) : Prop where
  device : Device.Run cfg.device ok v.device
  encoder : Encoder.FramesRun cfg.encoder cfg.config.timeOffsetInc (fun _ _ => True) v.encoder
    v.frames
  linked : Linked cfg v

namespace Parts

theorem init (cfg : VideoSetup) (ok : Act → Device → Prop) (memory : Buffer → ℕ → UInt8) :
    Parts cfg ok (Video.init cfg memory) where
  device := .refl
  encoder := .refl
  linked := by
    refine ⟨fun t ht => ?_, fun b => rfl, rfl, rfl, ⟨fun he => ?_, fun he => ?_⟩⟩
    · cases ht
    · cases he
    · cases he

theorem encoderRun (h : Parts cfg ok v) :
    Encoder.Run cfg.encoder (fun _ _ => True) v.encoder :=
  Encoder.run_of_frames h.encoder

theorem frames (h : Parts cfg ok v) {e : EncoderAct} {s : Encoder}
    (he : v.encoder.step cfg.encoder e = some s) :
    Encoder.FramesRun cfg.encoder cfg.config.timeOffsetInc (fun _ _ => True)
      (v.encoderTo cfg e s).encoder (v.encoderTo cfg e s).frames :=
  h.encoder.tail (a := (e, cfg.frameBytes v.memory)) trivial
    (withHistory_eq_some_iff.mpr ⟨he, rfl⟩)

theorem returnFrame (h : Parts cfg ok v) (hfault : v.device.fault = none)
    (hok : ∀ t d, ok (.encoderReturn t) d) {a : EncoderAct} {s : Encoder} :
    Device.Run cfg.device ok
      (Video.returnFrame cfg (returnsBuffer v.encoder s a) v.device) := by
  cases hret : returnsBuffer v.encoder s a with
  | none => exact h.device
  | some b =>
      have hmem := h.linked.mem_encoder (Encoder.custody h.encoderRun) hret
      refine h.device.tail (a := .encoderReturn (cfg.videoIndex, b)) (hok _ _) ?_
      simp [Device.step, hfault, Device.encoderReturn, hmem, Video.returnFrame]

theorem step {a : VideoAct} {v' : Video} (h : Parts cfg ok v)
    (hok : ∀ t d, ok (.encoderReturn t) d) (ha : onDevice ok a v) (hdevice : v.device.fault = none)
    (hs : Step cfg v a v') : Parts cfg ok v' := by
  have hlt : v.device.resultPc ≠ .exited →
      v.device.camera3Streams = cfg.device.camera3Streams := by
    intro hne
    refine (Device.stages h.device).streams ?_
    by_contra hle
    exact hne ((Device.stages h.device).result (by omega))
  cases hs with
  | @device a d hstarted hin hd hact =>
      refine ⟨by simpa using h.device.tail ha hd, by simpa using h.encoder, ?_⟩
      exact h.linked.device hlt hin hact (Device.Step.of_eq hd).2
  | @both a d e s hstarted hin hd hact he =>
      refine ⟨?_, ?_, ?_⟩
      · simpa [encoderTo] using h.device.tail ha hd
      · simpa [encoderTo] using h.frames he
      · exact h.linked.both (sharedStep h.device hact (Device.Step.of_eq hd).2)
          (Encoder.Step.of_eq he).2
  | @encoder a s hown he =>
      obtain ⟨hfault, hstep⟩ := Encoder.Step.of_eq he
      refine ⟨h.returnFrame hdevice hok, h.frames he, ?_⟩
      exact h.linked.encoder (Encoder.custody h.encoderRun) (ownFrame hown hfault hstep)
  | write => exact ⟨h.device, h.encoder, ⟨h.linked.manager, h.linked.buffers, h.linked.stop,
      h.linked.stage, h.linked.exited⟩⟩

end Parts

/-- **A video case does nothing that its parts could not do on their own.** -/
theorem parts {memory : Buffer → ℕ → UInt8} (h : Run cfg ok memory v)
    (hok : ∀ t d, ok (.encoderReturn t) d) : Parts cfg ok v :=
  Reachable.invariant (P := Parts cfg ok) h (.init cfg ok memory) fun _ _ _ _ hp ha hs =>
    hp.step hok ha (Step.of_eq hs).1 (Step.of_eq hs).2.2

/-- **The encoder's side of a shared thread is always ready**, so that it keeps the device from no
step. -/
theorem not_blocked (h : Parts cfg ok v) (hfault : v.encoder.fault = none)
    (hstarted : v.encoder.started = cfg.encoder.inbufs.length) {a : Act} {d : Device}
    {e : EncoderAct} (hin : v.inDevice a = true) (hd : v.device.step cfg.device a = some d)
    (hact : v.encoderAct cfg d a = some e) : ∃ s, v.encoder.step cfg.encoder e = some s := by
  rw [← Option.isSome_iff_exists]
  have hstage := h.linked.stage
  have hidle : ∀ x, e = .result x → v.encoder.resultPc = .idle := by
    rintro x rfl
    cases a with
    | result => simpa [inDevice] using hin
    | request | hal | encoderReturn | user => cases hact
    | stop a => cases a <;> simp [encoderAct] at hact
  cases sharedStep h.device hact (Device.Step.of_eq hd).2 with
  | deliver =>
      simp only [Encoder.step, hfault, Encoder.result, hstarted, hidle _ rfl]
      cases v.encoder.stop <;> rfl
  | exit hpc hpc' hencoder hcase hjoin =>
      rw [hjoin] at hstage
      have hstopPc : v.encoder.stopPc = .joinResult := hstage
      simp [Encoder.step, hfault, Encoder.result, hidle _ rfl, hstopPc]
  | begin hrunning =>
      rw [hrunning] at hstage
      have hstopPc : v.encoder.stopPc = .running := hstage
      simp only [Encoder.step, hfault, Encoder.stopStep, hstopPc, hstarted]
      cases cfg.encoder.videoOnly <;> rfl
  | joinResult hjoin hpc =>
      rw [hjoin] at hstage
      have hstopPc : v.encoder.stopPc = .joinResult := hstage
      simp [Encoder.step, hfault, Encoder.stopStep, hstopPc, h.linked.exited.mp hpc]
  | delete hdelete =>
      rw [hdelete] at hstage
      have hstopPc : v.encoder.stopPc = .delete := hstage
      simp [Encoder.step, hfault, Encoder.stopStep, hstopPc]

end Video

end QCamx
