import QCamx.Video.Kept

/-!
# The way of a frame to the encoder

The result queue, the callback and `mBufferQueue` pass buffers on in order. Of the frames in the
results that the result thread got, the callback has handed the first ones over, and of these the
encoder has copied the first ones; the drain of `stop` and a callback that sees `_stop` leave frames
out.

* `Encoder.copiedAndWaiting`: the encoder's part of the way;
* `pendingVideo`, `pending_step`: the device's part;
* **`Arrival`**: what has become of the frames that were queued, kept by every step.
-/

namespace QCamx

open Guarded

/-! ## The encoder's part of the way -/

namespace Encoder

variable {cfg : EncoderSetup} {inc : UInt32} {s s' : Encoder} {β : Type} {f : Frames β}
  {held captured : Buffer → β}

/-- The frames that `Read` has yet to copy, in the order in which it gets to them. -/
def inOrder (s : Encoder) : List Buffer :=
  s.inFlightPc.frame.toList ++ s.queued ++ s.resultPc.frame.toList

/-- What has been copied, and what will be. -/
def copiedAndWaiting (captured : Buffer → β) (s : Encoder) (f : Frames β) : List β :=
  f.copied.map Prod.snd ++ s.inOrder.map captured

theorem copied_recordFrames {a : EncoderAct} (h : s.inFlightPc.frame = none) :
    (recordFrames inc (a, held) s s' f).copied = f.copied := by
  unfold recordFrames
  split
  · split
    · next hpc => simp [hpc, InFlightPc.frame] at h
    · rfl
  · split <;> rfl
  · rfl
  · rfl

/-- Once the manager is deleted nothing is copied. -/
theorem copied_of_deleted {a : EncoderAct} (inc : UInt32) (held : Buffer → β) (f : Frames β)
    (hdeleted : s.managerDeleted = true)
    (hs : Step cfg s a s') : (recordFrames inc (a, held) s s' f).copied = f.copied := by
  by_cases hframe : s.inFlightPc.frame = none
  · exact copied_recordFrames hframe
  · unfold recordFrames
    split
    · next ha =>
        simp only at ha
        subst ha
        cases hs with
        | inFlight hs =>
            cases hs with
            | deletedQueue hpc => simp [hpc]
            | waitFrame hseeks | popFrame hseeks => exact absurd hseeks.ne_exited.2 hframe
            | deletedManager hpc => simp [hpc, fail]
            | copy hpc hnot =>
                rw [hdeleted] at hnot
                cases hnot
    · split <;> rfl
    · rfl
    · rfl

theorem copiedAndWaiting_inFlight {a : InFlightAct} (hfault : s.fault = none)
    (hs : InFlightStep cfg s a s')
    (hheld : ∀ b, s.inFlightPc.frame = some b → held b = captured b) :
    copiedAndWaiting captured s' (recordFrames inc (.inFlight a, held) s s' f) =
      copiedAndWaiting captured s f := by
  cases hs with
  | takeRead hpc | takeExit hpc | nullBuffer hpc | readExit hpc | timeout hpc | reject hpc
  | accept hpc =>
      have hnone : s.inFlightPc.frame = none := by simp [hpc, InFlightPc.frame]
      rw [copiedAndWaiting, copied_recordFrames hnone, copiedAndWaiting, inOrder, inOrder, hnone]
      rfl
  | deletedQueue hpc =>
      have hnone : s.inFlightPc.frame = none := by simp [hpc, InFlightPc.frame]
      rw [copiedAndWaiting, copied_recordFrames hnone]
      rfl
  | waitFrame hseeks hqueue =>
      have hnone := hseeks.ne_exited.2
      rw [copiedAndWaiting, copied_recordFrames hnone, copiedAndWaiting, inOrder, inOrder, hnone]
      rfl
  | popFrame hseeks hqueue =>
      have hnone := hseeks.ne_exited.2
      rw [copiedAndWaiting, copied_recordFrames hnone, copiedAndWaiting, inOrder, inOrder, hnone]
      simp [queued, hqueue, InFlightPc.frame]
  | deletedManager hpc =>
      simp [copiedAndWaiting, recordFrames, hpc, fail, inOrder, queued]
  | copy hpc =>
      have hb := hheld _ (by rw [hpc]; rfl)
      simp [copiedAndWaiting, recordFrames, hpc, hfault, inOrder, queued, InFlightPc.frame, hb]

/-- **The encoder copies the frames in the order in which it gets them**, and leaves frames out
only once `_stop` is set. -/
theorem copiedAndWaiting_step {a : EncoderAct} (inc : UInt32) (f : Frames β)
    (hown : Video.ownAct a = true)
    (hfault : s.fault = none) (hst : Stages cfg s) (hs : Step cfg s a s')
    (hheld : ∀ b, s.inFlightPc.frame = some b → held b = captured b) :
    (copiedAndWaiting captured s' (recordFrames inc (a, held) s s' f)).Sublist
        (copiedAndWaiting captured s f) ∧
      (s.stop = false → copiedAndWaiting captured s' (recordFrames inc (a, held) s s' f) =
        copiedAndWaiting captured s f) := by
  have hsame (h : copiedAndWaiting captured s' (recordFrames inc (a, held) s s' f) =
      copiedAndWaiting captured s f) :
      (copiedAndWaiting captured s' (recordFrames inc (a, held) s s' f)).Sublist
          (copiedAndWaiting captured s f) ∧
        (s.stop = false → copiedAndWaiting captured s' (recordFrames inc (a, held) s s' f) =
          copiedAndWaiting captured s f) :=
    ⟨h ▸ List.Sublist.refl _, fun _ => h⟩
  cases hs with
  | start | emptyDone => exact hsame rfl
  | inFlight hs => exact hsame (copiedAndWaiting_inFlight hfault hs hheld)
  | result hs =>
      cases hs with
      | returnBuffer | deliver | exit => cases hown
      | deletedQueue => exact hsame rfl
      | push signalled hpc hqueue =>
          refine hsame ?_
          simp [copiedAndWaiting, recordFrames, inOrder, queued, hpc, hqueue, VideoResultPc.frame]
  | stop hs =>
      cases hs with
      | beginVideoOnly | begin | joinResult | delete => cases hown
      | flush | postExit | joinInFlight | giveBack => exact hsame rfl
      | drain hpc hqueue =>
          have hv : cfg.videoOnly = false := by
            by_contra hv
            have hle := hst.videoOnly (by simpa using hv)
            simp [hpc] at hle
          have hflag : s.stop = true := hst.stop.mpr ⟨hv, by simp [hpc]⟩
          refine ⟨?_, fun hnot => ?_⟩
          · simp only [copiedAndWaiting, recordFrames, inOrder, queued, hqueue, Option.getD_some]
            refine List.Sublist.append (List.Sublist.refl _) (List.Sublist.map _ ?_)
            refine List.Sublist.append (List.Sublist.append (List.Sublist.refl _) ?_)
              (List.Sublist.refl _)
            exact List.sublist_cons_self _ _
          · rw [hflag] at hnot
            cases hnot
      | deleteQueue hpc hqueue =>
          refine hsame ?_
          simp [copiedAndWaiting, recordFrames, inOrder, queued, hqueue, VideoStopPc.frame]

end Encoder

namespace Video

variable {cfg : VideoSetup} {v v' : Video} {ok : Act → Device → Prop}

/-! ## The device's part of the way -/

/-- The buffers that the callback has yet to get to. -/
def callbackBuffers : ResultPc → List StreamBuffer
  | .callback _ rest => rest
  | .top | .giveBack .. | .exited => []

/-- The buffers of the video stream that were queued and are not handed over, in order. -/
def pendingVideo (cfg : VideoSetup) (s : Device) : List Buffer :=
  cfg.videoBuffers (callbackBuffers s.resultPc) ++
    cfg.videoBuffers (s.resultThread.messageQueue.items.flatMap (·.streamBuffers))

theorem videoBuffers_append (bs cs : List StreamBuffer) :
    cfg.videoBuffers (bs ++ cs) = cfg.videoBuffers bs ++ cfg.videoBuffers cs := by
  simp [VideoSetup.videoBuffers]

theorem videoBuffers_cons (b : StreamBuffer) (bs : List StreamBuffer) :
    cfg.videoBuffers (b :: bs) =
      (if cfg.IsVideo b then [b.buffer] else []) ++ cfg.videoBuffers bs := by
  by_cases h : cfg.IsVideo b <;> simp [VideoSetup.videoBuffers, h]

theorem syncBufferMode_eq : cfg.device.syncBufferMode = .external := by
  have htc := cfg.testCase
  cases hv : cfg.encoder.videoOnly <;>
    simp [Setup.syncBufferMode, htc, hv, initStreams, initVideoStream, initVideoOnlyStream]

theorem mem_taken_of_pending {b : Buffer} (hb : b ∈ pendingVideo cfg v.device) :
    (cfg.videoIndex, b) ∈ Device.taken cfg.device v.device := by
  have hmap : ∀ bs : List StreamBuffer, b ∈ cfg.videoBuffers bs → ∀ cs, bs ⊆ cs →
      (cfg.videoIndex, b) ∈ cs.map (atManager cfg.device.camera3Streams) := by
    intro bs hb cs hsub
    obtain ⟨c, hc, rfl⟩ := List.mem_map.mp hb
    obtain ⟨hc, hvideo⟩ := List.mem_filter.mp hc
    rw [← mem_of_isVideo (of_decide_eq_true hvideo)]
    exact List.mem_map_of_mem (hsub hc)
  rw [pendingVideo, ← videoBuffers_append] at hb
  refine List.mem_append_right _ (hmap _ hb _ ?_)
  intro c hc
  simp only [Device.resultSide, Device.messageBuffers, List.mem_append]
  rcases List.mem_append.mp hc with hc | hc
  · left; right; right
    cases hpc : v.device.resultPc with
    | callback msg rest =>
        rw [hpc] at hc
        rw [ResultPc.buffers, if_pos syncBufferMode_eq]
        exact hc
    | top | giveBack | exited =>
        rw [hpc] at hc
        cases hc
  · exact Or.inl (Or.inr (Or.inl hc))

theorem mem_taken_of_inOrder (h : Parts cfg ok v) {b : Buffer} (hb : b ∈ v.encoder.inOrder) :
    (cfg.videoIndex, b) ∈ Device.taken cfg.device v.device := by
  refine List.mem_append_left _ ?_
  rw [← List.count_pos_iff, h.linked.count_encoder (Encoder.custody h.encoderRun),
    List.count_pos_iff]
  simp only [Encoder.inOrder, Encoder.outstanding, List.mem_append] at hb ⊢
  tauto

/-! ## What has become of the frames that were queued -/

/-- The frames that were queued are those that the callback has got to, and the pending ones; of
the former, the encoder has copied some and will copy others. -/
structure Arrival (cfg : VideoSetup) (v : Video) (handed : List (List UInt8)) : Prop where
  arrived : v.arrived = handed ++ (pendingVideo cfg v.device).map (cfg.frameBytes v.captured)
  sublist : (Encoder.copiedAndWaiting (cfg.frameBytes v.captured) v.encoder v.frames).Sublist handed
  all : v.encoder.stop = false →
    Encoder.copiedAndWaiting (cfg.frameBytes v.captured) v.encoder v.frames = handed

theorem frameBytes_congr {m m' : Buffer → ℕ → UInt8} {bs : List Buffer}
    (h : ∀ b ∈ bs, m' b = m b) : bs.map (cfg.frameBytes m') = bs.map (cfg.frameBytes m) :=
  List.map_congr_left fun b hb => by simp only [VideoSetup.frameBytes, h b hb]

/-- The buffer that a round of the callback deals with. -/
def handedOver (cfg : VideoSetup) (s : Device) : Act → List Buffer
  | .result .callback => match s.resultPc with
    | .callback _ (b :: _) => cfg.videoBuffers [b]
    | _ => []
  | .result _ | .request _ | .hal _ | .encoderReturn _ | .stop _ | .user _ => []

theorem handedOver_subset (s : Device) (a : Act) :
    handedOver cfg s a ⊆ pendingVideo cfg s := by
  intro c hc
  unfold handedOver at hc
  split at hc
  · split at hc
    · next b rest hpc =>
        rw [pendingVideo, hpc, callbackBuffers, videoBuffers_cons]
        rw [videoBuffers_cons] at hc
        exact List.mem_append_left _ (List.mem_append_left _
          (by simpa [VideoSetup.videoBuffers] using hc))
    · cases hc
  all_goals cases hc

theorem handedOver_of_takeAct {a : ResultAct} {act : BlockingQueue.Act CameraPostProcessMsg}
    (h : Device.takeAct a = some act) (s : Device) : handedOver cfg s (.result a) = [] := by
  cases a with
  | take | wake => rfl
  | callback | giveBack => cases h

/-- A step of the result thread hands over what was pending first, if it is the callback's. -/
theorem pending_result {a : ResultAct} {d : Device} (hr : Device.Run cfg.device ok v.device)
    (hs : Device.ResultStep cfg.device v.device a d) :
    handedOver cfg v.device (.result a) ++ pendingVideo cfg d = pendingVideo cfg v.device := by
  have hst := Device.stages hr
  have hlt : v.device.stopPc.stage < 7 := by
    by_contra hle
    exact hs.ne_exited (hst.result (by omega))
  have hstreams := hst.streams hlt
  cases hs with
  | @wait a act q hpc hheld hact hq hitems =>
      have hq' : q.items = v.device.resultThread.messageQueue.items := by
        rw [Device.items_takeAct hact hq]
        rcases hitems with rfl | ⟨rfl, hitems⟩
        · rw [if_pos rfl]
        · simp [hitems]
      rw [handedOver_of_takeAct hact, List.nil_append, pendingVideo, pendingVideo, hq']
  | @wakeEmpty w q hpc hheld hw hq hitems =>
      have hq' : q.items = v.device.resultThread.messageQueue.items := by
        rw [Device.items_takeAct (a := .wake w) rfl hq, if_neg (by simpa using hw), hitems]
        rfl
      simp only [handedOver, List.nil_append, pendingVideo, Device.fail, hq']
  | @popStop a act q msg l hpc hheld ha hact hq hitems hmsg =>
      have hq' := Device.items_takeAct hact hq
      rw [if_neg ha, hitems, List.tail_cons] at hq'
      have hstop := Device.eq_stopMsg_of_mem hr (by rw [hitems]; exact List.mem_cons_self) hmsg
      rw [handedOver_of_takeAct hact, List.nil_append, pendingVideo, pendingVideo, hpc, hitems,
        hstop]
      simp [callbackBuffers, hq', stopMsg]
  | @pop a act q msg l hpc hheld ha hact hq hitems hmsg =>
      have hq' := Device.items_takeAct hact hq
      rw [if_neg ha, hitems, List.tail_cons] at hq'
      rw [handedOver_of_takeAct hact, List.nil_append, pendingVideo, pendingVideo, hpc, hitems]
      simp [callbackBuffers, hq', VideoSetup.videoBuffers]
  | @callback msg b rest effects caseState hpc heff =>
      obtain ⟨managers, encoder, he⟩ := Device.foldl_applyEffect effects v.device
      rw [he]
      simp only [handedOver, pendingVideo, hpc, callbackBuffers]
      rw [videoBuffers_cons b rest, videoBuffers_cons b []]
      simp [VideoSetup.videoBuffers]
  | @callbackUnknown msg b rest hpc heff =>
      rw [hstreams] at heff
      have hnot := cfg.not_isVideo_of_unknown heff
      simp only [handedOver, hpc]
      rw [videoBuffers_cons b [], if_neg hnot]
      rfl
  | callbackInternal hpc hmode => exact absurd syncBufferMode_eq hmode
  | callbackExternal hpc hmode => simp [handedOver, pendingVideo, hpc, callbackBuffers]
  | giveBack hpc | giveBackDone hpc =>
      simp [handedOver, pendingVideo, hpc, callbackBuffers, Device.returnBuffer]
  | giveBackUnknown => rfl

/-- **Frames are handed over from the front and queued at the back.** -/
theorem pending_step {a : Act} {d : Device} (hr : Device.Run cfg.device ok v.device)
    (hfault : v.device.fault = none) (hs : Device.Step cfg.device v.device a d) :
    ∃ l, handedOver cfg v.device a ++ pendingVideo cfg d = pendingVideo cfg v.device ++ l ∧
      (v.deviceTo cfg a d).arrived = v.arrived ++ l.map (cfg.frameBytes v.captured) ∧
      (l ≠ [] → (v.deviceTo cfg a d).captured = v.captured) := by
  have hsame (hpending : handedOver cfg v.device a ++ pendingVideo cfg d =
      pendingVideo cfg v.device) (harrived : (v.deviceTo cfg a d).arrived = v.arrived) :
      ∃ l, handedOver cfg v.device a ++ pendingVideo cfg d = pendingVideo cfg v.device ++ l ∧
        (v.deviceTo cfg a d).arrived = v.arrived ++ l.map (cfg.frameBytes v.captured) ∧
        (l ≠ [] → (v.deviceTo cfg a d).captured = v.captured) :=
    ⟨[], by rw [hpending, List.append_nil], by rw [harrived, List.map_nil, List.append_nil],
      fun hne => absurd rfl hne⟩
  cases hs with
  | request hs =>
      have hf := hs.frame
      exact hsame (by simp [handedOver, pendingVideo, hf.resultPc, hf.resultThread]) rfl
  | encoderReturn => exact hsame rfl rfl
  | user hs =>
      have hf := hs.frame
      exact hsame (by simp [handedOver, pendingVideo, hf.resultPc, hf.resultThread]) rfl
  | stop hs =>
      refine hsame ?_ rfl
      cases hs with
      | postResult => simp [handedOver, pendingVideo, BlockingQueue.push]
      | _ => rfl
  | hal hs =>
      cases hs with
      | callMetadata | call | lockNull | lock | unlock | unlockNull | countAbsent
      | countComplete | count => exact hsame rfl rfl
      | pushNull hheld | pushStopped hheld =>
          refine hsame rfl ?_
          simp_all [deviceTo, Device.fail]
      | @push r view hheld hview hnull hstopped =>
          refine ⟨cfg.videoBuffers r.outputBuffers, ?_, ?_, fun _ => rfl⟩
          · simp [handedOver, pendingVideo, Device.pushResult, BlockingQueue.push,
              videoBuffers_append]
          · simp [deviceTo, hheld, hstopped, hfault, Device.pushResult]
  | result hs => exact hsame (pending_result hr hs) rfl

theorem handedOver_eq (cfg : VideoSetup) (v : Video) (d : Device) (a : Act) :
    handedOver cfg v.device a =
      match v.encoderAct cfg d a with
      | some (.result (.deliver b)) => [b]
      | _ => [] := by
  cases a with
  | request | hal | encoderReturn | user => rfl
  | stop a => cases a <;> rfl
  | result a =>
      cases a with
      | take | wake | giveBack => unfold encoderAct; split <;> simp_all [handedOver]
      | callback =>
          cases hpc : v.device.resultPc with
          | top | giveBack | exited => simp [handedOver, encoderAct, hpc]
          | callback msg rest =>
              cases rest with
              | nil => simp [handedOver, encoderAct, hpc]
              | cons b rest =>
                  by_cases hvideo : cfg.IsVideo b <;>
                    simp [handedOver, encoderAct, hpc, hvideo, VideoSetup.videoBuffers]

theorem captured_deviceTo {a : Act} {d : Device} (hc : Device.Custody cfg.device v.device)
    (ha : Device.HalContract a v.device) {b : Buffer}
    (hb : (cfg.videoIndex, b) ∈ Device.taken cfg.device v.device) :
    (v.deviceTo cfg a d).captured b = v.captured b := by
  unfold deviceTo
  split
  · next r =>
      refine if_neg fun hmem => ?_
      obtain ⟨c, hcmem, rfl⟩ := List.mem_map.mp hmem
      obtain ⟨hcmem, hvideo⟩ := List.mem_filter.mp hcmem
      refine hc.not_mem_taken (List.mem_map_of_mem (mem_requestSide ha hcmem)) ?_
      rw [mem_of_isVideo (of_decide_eq_true hvideo)]
      exact hb
  all_goals rfl

theorem Arrival.deviceTo {handed : List (List UInt8)} {a : Act} {d : Device}
    (h : Arrival cfg v handed) (hp : Parts cfg ok v) (hfault : v.device.fault = none)
    (hc : Device.Custody cfg.device v.device) (ha : Device.HalContract a v.device)
    (hs : Device.Step cfg.device v.device a d) :
    (v.deviceTo cfg a d).arrived =
        handed ++ (handedOver cfg v.device a).map (cfg.frameBytes v.captured) ++
          (pendingVideo cfg d).map (cfg.frameBytes (v.deviceTo cfg a d).captured) ∧
      Encoder.copiedAndWaiting (cfg.frameBytes (v.deviceTo cfg a d).captured) v.encoder v.frames =
        Encoder.copiedAndWaiting (cfg.frameBytes v.captured) v.encoder v.frames := by
  obtain ⟨l, hpending, harrived, hcaptured⟩ := pending_step hp.device hfault hs
  have hkeep : ∀ b ∈ pendingVideo cfg d,
      (v.deviceTo cfg a d).captured b = v.captured b := by
    intro b hb
    by_cases hl : l = []
    · refine captured_deviceTo hc ha (mem_taken_of_pending ?_)
      rw [hl, List.append_nil] at hpending
      rw [← hpending]
      exact List.mem_append_right _ hb
    · rw [hcaptured hl]
  constructor
  · rw [harrived, h.arrived, frameBytes_congr hkeep, List.append_assoc, List.append_assoc,
      ← List.map_append, ← List.map_append, hpending]
  · rw [Encoder.copiedAndWaiting, Encoder.copiedAndWaiting,
      frameBytes_congr fun b hb => captured_deviceTo hc ha (mem_taken_of_inOrder hp hb)]

theorem Arrival.device {handed : List (List UInt8)} {a : Act} {d : Device}
    (h : Arrival cfg v handed) (hp : Parts cfg ok v) (hfault : v.device.fault = none)
    (hc : Device.Custody cfg.device v.device) (ha : Device.HalContract a v.device)
    (hs : Device.Step cfg.device v.device a d) (hact : v.encoderAct cfg d a = none) :
    Arrival cfg (v.deviceTo cfg a d) handed := by
  obtain ⟨harrived, hcopied⟩ := h.deviceTo hp hfault hc ha hs
  rw [handedOver_eq cfg v d a, hact] at harrived
  constructor
  · simpa using harrived
  · simpa [hcopied] using h.sublist
  · simpa [hcopied] using h.all

theorem Arrival.both {handed : List (List UInt8)} {a : Act} {d : Device} {e : EncoderAct}
    {s : Encoder} (h : Arrival cfg v handed) (hp : Parts cfg ok v)
    (hfault : v.device.fault = none) (hc : Device.Custody cfg.device v.device)
    (ha : Device.HalContract a v.device) (hs : Device.Step cfg.device v.device a d)
    (hact : v.encoderAct cfg d a = some e) (he : Encoder.Step cfg.encoder v.encoder e s) :
    Arrival cfg ((v.deviceTo cfg a d).encoderTo cfg e s)
      (handed ++ (handedOver cfg v.device a).map (cfg.frameBytes v.captured)) := by
  obtain ⟨harrived, hcopied⟩ := h.deviceTo hp hfault hc ha hs
  have hover := handedOver_eq cfg v d a
  rw [hact] at hover
  -- in all cases but one the frames in the encoder stay as they are
  have hkeep (hnone : handedOver cfg v.device a = []) (hinOrder : s.inOrder = v.encoder.inOrder)
      (hframes : ((v.deviceTo cfg a d).encoderTo cfg e s).frames = v.frames)
      (hstop : s.stop = false → v.encoder.stop = false) :
      Arrival cfg ((v.deviceTo cfg a d).encoderTo cfg e s)
        (handed ++ (handedOver cfg v.device a).map (cfg.frameBytes v.captured)) := by
    have hwaiting : Encoder.copiedAndWaiting (cfg.frameBytes (v.deviceTo cfg a d).captured) s
        v.frames = Encoder.copiedAndWaiting (cfg.frameBytes v.captured) v.encoder v.frames := by
      rw [← hcopied, Encoder.copiedAndWaiting, Encoder.copiedAndWaiting, hinOrder]
    constructor
    · simpa [encoderTo] using harrived
    · rw [hnone, hframes]
      simpa [encoderTo, hwaiting] using h.sublist
    · rw [hnone, hframes]
      intro hs
      simpa [encoderTo, hwaiting] using h.all (hstop hs)
  cases sharedStep hp.device hact hs with
  | @deliver b =>
      cases he with
      | result he =>
          simp only at hover
          cases he with
          | returnBuffer hidle hstop =>
              constructor
              · simpa [encoderTo] using harrived
              · simpa [encoderTo, hcopied, Encoder.recordFrames] using
                  h.sublist.trans (List.sublist_append_left _ _)
              · intro hnot
                have hflag : v.encoder.stop = false := by simpa [encoderTo] using hnot
                rw [hstop] at hflag
                cases hflag
          | deliver hidle hstop =>
              have hwaiting : Encoder.copiedAndWaiting
                  (cfg.frameBytes (v.deviceTo cfg a d).captured)
                  { v.encoder with resultPc := .enqueue b } v.frames =
                    Encoder.copiedAndWaiting (cfg.frameBytes v.captured) v.encoder v.frames ++
                      [cfg.frameBytes v.captured b] := by
                have hb : cfg.frameBytes (v.deviceTo cfg a d).captured b =
                    cfg.frameBytes v.captured b := by
                  rw [VideoSetup.frameBytes, captured_deviceTo hc ha, VideoSetup.frameBytes]
                  refine mem_taken_of_pending (handedOver_subset v.device a ?_)
                  simp [hover]
                rw [← hcopied, ← hb]
                simp [Encoder.copiedAndWaiting, Encoder.inOrder, Encoder.queued, hidle,
                  VideoResultPc.frame]
              have hall := h.all hstop
              constructor
              · simpa [encoderTo] using harrived
              · simp [encoderTo, Encoder.recordFrames, hwaiting, hover, hall]
              · simp [encoderTo, Encoder.recordFrames, hwaiting, hover, hall]
  | exit =>
      cases he with
      | result he =>
          cases he with
          | exit hidle =>
              refine hkeep hover ?_ ?_ id
              · simp [Encoder.inOrder, Encoder.queued, hidle, VideoResultPc.frame]
              · simp [encoderTo, Encoder.recordFrames]
  | begin =>
      cases he with
      | stop he =>
          cases he with
          | beginVideoOnly => exact hkeep hover rfl (by simp [encoderTo, Encoder.recordFrames]) id
          | begin =>
              exact hkeep hover rfl (by simp [encoderTo, Encoder.recordFrames]) fun hs => by
                cases hs
  | joinResult | delete =>
      cases he with
      | stop he =>
          cases he
          exact hkeep hover rfl (by simp [encoderTo, Encoder.recordFrames]) id

theorem Arrival.encoder {handed : List (List UInt8)} {a : EncoderAct} {s : Encoder}
    (h : Arrival cfg v handed) (hp : Parts cfg ok v) (hkept : Kept cfg v)
    (hown : ownAct a = true) (hfault : v.encoder.fault = none)
    (hs : Encoder.Step cfg.encoder v.encoder a s) :
    Arrival cfg { v.encoderTo cfg a s with
      device := returnFrame cfg (returnsBuffer v.encoder s a) v.device } handed := by
  have hheld : ∀ b, v.encoder.inFlightPc.frame = some b →
      cfg.frameBytes v.memory b = cfg.frameBytes v.captured b := by
    intro b hb
    have hmem : b ∈ v.encoder.inOrder := by simp [Encoder.inOrder, hb]
    rw [VideoSetup.frameBytes, hkept b (mem_taken_of_inOrder hp hmem), VideoSetup.frameBytes]
  obtain ⟨hsub, hall⟩ := Encoder.copiedAndWaiting_step cfg.config.timeOffsetInc
    v.frames hown hfault (Encoder.stages hp.encoderRun) hs hheld
  have hpending : pendingVideo cfg (returnFrame cfg (returnsBuffer v.encoder s a) v.device) =
      pendingVideo cfg v.device := by
    unfold returnFrame
    split <;> rfl
  refine ⟨?_, hsub.trans h.sublist, fun hstop => ?_⟩
  · show v.arrived = handed ++ (pendingVideo cfg (returnFrame cfg _ v.device)).map _
    rw [hpending]
    exact h.arrived
  · have hflag : v.encoder.stop = false := by rw [← (ownFrame hown hfault hs).stop]; exact hstop
    exact (hall hflag).trans (h.all hflag)

end Video

end QCamx
