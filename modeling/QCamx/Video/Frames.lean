import QCamx.Video.Arrival

/-!
# The frames that the encoder gets

* `Inv`, `inv`: copies are copies of what was queued, up to the deletion of the streams by `Arrival`
  and after it because nothing is copied;
* **`frames_reach_component`**: the bytes that the component gets;
* **`video_buffers_in_one_place`**: where the buffers of a video case are;
* **`runs_as_its_parts`**: a video case, its device and its encoder.
-/

namespace QCamx

open Guarded

namespace Video

variable {cfg : VideoSetup} {v v' : Video} {ok : Act → Device → Prop}

/-! ## Runs -/

/-- The copies of the encoder are copies of frames that were queued, in their order. -/
structure Copied (v : Video) : Prop where
  sublist : (v.frames.copied.map Prod.snd).Sublist v.arrived
  all : v.encoder.stop = false → v.frames.copied.map Prod.snd <+: v.arrived

theorem Arrival.copied {handed : List (List UInt8)} (h : Arrival cfg v handed) : Copied v := by
  have hhanded : handed <+: v.arrived := ⟨_, h.arrived.symm⟩
  refine ⟨?_, fun hstop => ?_⟩
  · exact ((List.sublist_append_left _ _).trans h.sublist).trans hhanded.sublist
  · refine List.IsPrefix.trans ?_ hhanded
    rw [← h.all hstop]
    exact List.prefix_append _ _

theorem Copied.step {a : VideoAct} (h : Copied v) (hp : Parts cfg ok v)
    (hst : 7 ≤ v.device.stopPc.stage) (hdevice : v.device.fault = none)
    (hs : Step cfg v a v') : Copied v' := by
  have hpc : v.device.stopPc = .stopped := by cases hpc : v.device.stopPc <;> simp_all
  have hexited := (Device.stages hp.device).result (by omega)
  cases hs with
  | @device a d hstarted hin hd hact =>
      obtain ⟨l, -, harrived, -⟩ := pending_step hp.device hdevice (Device.Step.of_eq hd).2
      refine ⟨?_, fun hstop => ?_⟩
      · rw [deviceTo_frames, harrived]
        exact h.sublist.trans (List.sublist_append_left _ _)
      · rw [deviceTo_frames, harrived]
        exact (h.all (by simpa using hstop)).trans (List.prefix_append _ _)
  | both hstarted hin hd hact he =>
      cases sharedStep hp.device hact (Device.Step.of_eq hd).2 with
      | deliver hne | exit hne => exact absurd hexited hne
      | begin hstage | joinResult hstage | delete hstage =>
          rw [hpc] at hstage
          cases hstage
  | encoder hown he =>
      obtain ⟨hfault, he⟩ := Encoder.Step.of_eq he
      have hstopped : v.encoder.stopPc = .stopped := by
        have hlink := hp.linked.stage
        rw [hpc] at hlink
        exact hlink
      have hdeleted : v.encoder.managerDeleted = true :=
        (Encoder.stages hp.encoderRun).manager.mpr (by rw [hstopped]; rfl)
      have hcopied := Encoder.copied_of_deleted cfg.config.timeOffsetInc
        (cfg.frameBytes v.memory) v.frames hdeleted he
      refine ⟨?_, fun hstop => ?_⟩
      · simpa only [encoderTo, hcopied] using h.sublist
      · have hflag : v.encoder.stop = false := by
          rw [← (ownFrame hown hfault he).stop]
          exact hstop
        simpa only [encoderTo, hcopied] using h.all hflag
  | write => exact ⟨h.sublist, h.all⟩

/-- The frames of a video case on their way to the encoder. -/
structure Inv (cfg : VideoSetup) (v : Video) : Prop where
  copied : Copied v
  kept : v.device.stopPc.stage < 7 → Kept cfg v
  arrival : v.device.stopPc.stage < 7 → ∃ handed, Arrival cfg v handed

theorem Inv.init (cfg : VideoSetup) (memory : Buffer → ℕ → UInt8) :
    Inv cfg (Video.init cfg memory) where
  copied := ⟨List.Sublist.refl _, fun _ => List.prefix_refl _⟩
  kept _ _ _ := rfl
  arrival _ := ⟨[], rfl, List.Sublist.refl _, fun _ => rfl⟩

theorem stage_lt_of_ne {s : Device} (h : s.stopPc ≠ .stopped) : s.stopPc.stage < 7 := by
  cases hpc : s.stopPc with
  | stopped => exact absurd hpc h
  | _ => simp

theorem stage_le {a : VideoAct} (hs : Step cfg v a v') :
    v.device.stopPc.stage ≤ v'.device.stopPc.stage := by
  cases hs with
  | device hstarted hin hd =>
      rw [deviceTo_device]
      exact (Device.Step.of_eq hd).2.stage_le
  | both hstarted hin hd =>
      show _ ≤ (v.deviceTo cfg _ _).device.stopPc.stage
      rw [deviceTo_device]
      exact (Device.Step.of_eq hd).2.stage_le
  | @encoder a s =>
      show _ ≤ (returnFrame cfg (returnsBuffer v.encoder s a) v.device).stopPc.stage
      unfold returnFrame
      split <;> exact le_rfl
  | write => exact le_rfl

theorem Arrival.step {handed : List (List UInt8)} {a : VideoAct} (h : Arrival cfg v handed)
    (hkept : Kept cfg v) (hp : Parts cfg Device.HalContract v)
    (hc : Device.Custody cfg.device v.device) (ha : onDevice Device.HalContract a v)
    (hdevice : v.device.fault = none) (hs : Step cfg v a v') :
    ∃ handed', Arrival cfg v' handed' := by
  cases hs with
  | device hstarted hin hd hact =>
      exact ⟨handed, h.device hp hdevice hc ha (Device.Step.of_eq hd).2 hact⟩
  | both hstarted hin hd hact he =>
      exact ⟨_, h.both hp hdevice hc ha (Device.Step.of_eq hd).2 hact (Encoder.Step.of_eq he).2⟩
  | encoder hown he =>
      obtain ⟨hfault, he⟩ := Encoder.Step.of_eq he
      exact ⟨handed, h.encoder hp hkept hown hfault he⟩
  | write => exact ⟨handed, h.arrived, h.sublist, h.all⟩

theorem taken_returnFrame {s : Device} (b : Option Buffer) :
    Device.taken cfg.device (returnFrame cfg b s) ⊆ Device.taken cfg.device s := by
  cases b with
  | none => exact List.Subset.refl _
  | some b =>
      intro t ht
      rcases List.mem_append.mp ht with ht | ht
      · exact List.mem_append_left _ (List.mem_of_mem_erase ht)
      · exact List.mem_append_right _ ht

theorem Kept.step {a : VideoAct} (h : Kept cfg v) (hc : Device.Custody cfg.device v.device)
    (hc' : Device.Custody cfg.device v'.device) (ha : onDevice Device.HalContract a v)
    (hs : Step cfg v a v') : Kept cfg v' := by
  cases hs with
  | device hstarted hin hd =>
      rw [deviceTo_device] at hc'
      exact h.device hc hc' ha (Device.Step.of_eq hd).2
  | both hstarted hin hd =>
      have hd' : Device.Custody cfg.device (v.deviceTo cfg _ _).device := hc'
      rw [deviceTo_device] at hd'
      exact h.device hc hd' ha (Device.Step.of_eq hd).2
  | @encoder a s => exact fun b hb => h b (taken_returnFrame _ hb)
  | write hin => exact h.write hc hin

theorem inv {memory : Buffer → ℕ → UInt8} (h : Run cfg Device.HalContract memory v) :
    Inv cfg v := by
  refine Reachable.invariant (P := Inv cfg) h (.init cfg memory) fun v a v' hr hi ha hs => ?_
  have hok : ∀ t d, Device.HalContract (.encoderReturn t) d := fun _ _ => trivial
  have hp := parts hr hok
  have hp' := parts (hr.tail ha hs) hok
  obtain ⟨hdevice, -, hs⟩ := Step.of_eq hs
  by_cases hst : v.device.stopPc.stage < 7
  · have hc := custody hp (fun _ _ => id) hst
    obtain ⟨handed, harrival⟩ := hi.arrival hst
    obtain ⟨handed', harrival'⟩ := harrival.step (hi.kept hst) hp hc ha hdevice hs
    refine ⟨harrival'.copied, fun hst' => ?_, fun _ => ⟨handed', harrival'⟩⟩
    exact (hi.kept hst).step hc (custody hp' (fun _ _ => id) hst') ha hs
  · have hle := stage_le hs
    exact ⟨hi.copied.step hp (by omega) hdevice hs, fun hst' => by omega, fun hst' => by omega⟩

/-- The frames that are on their way to the component, in order: the copy that the in-flight thread
is about to submit, those that wait for it, and those in the results that are not handed over. -/
def waitingFrames (cfg : VideoSetup) (v : Video) : List (List UInt8) :=
  (v.encoder.handed v.frames).map (fun p => p.1.2) ++
    (v.encoder.inOrder ++ pendingVideo cfg v.device).map (cfg.frameBytes v.captured)

theorem map_stamped_copied (v : Video) :
    (Encoder.stamped cfg.config.timeOffsetInc v.frames.copied).map (fun p => p.1.2) =
      v.frames.copied.map Prod.snd := by
  rw [← Encoder.map_fst_stamped cfg.config.timeOffsetInc (v.frames.copied.map Prod.snd),
    Encoder.stamped_map, List.map_map]
  rfl

/-- A video-only case with one stream, at address `1`, of two buffers, and one header. -/
def videoOnlySetup : VideoSetup where
  device := {
    testCase := .videoOnly
    config := { enableVideoEncoder := true }
    camera3Streams := [1]
    allocated := (Device.previewSetup 2).allocated
    nodup_streams := (Device.previewSetup 2).nodup_streams
    length_streams := Or.inr rfl
    nodup_allocated := (Device.previewSetup 2).nodup_allocated }
  encoder := Encoder.oneHeader true
  config := {}
  nAllocLen := 2
  testCase := rfl
  enableVideoEncoder := rfl

/-- The steps up to the acceptance of a request, and the writes of the HAL. -/
def captureFrame : List VideoAct :=
  .encoder .start :: Device.acceptRequest.map .device ++
    [.write 0 ⟨1, 0⟩ 0 7, .write 0 ⟨1, 0⟩ 1 8]

/-- The steps by which the result thread hands the buffer of frame `0` over. -/
def handOverFrame : List VideoAct :=
  (Device.deliverResult Device.resultZero).map .device ++
    [.device (.result .take), .device (.result .callback), .encoder (.result .push),
      .device (.result .callback)]

/-- Frame `1`, up to the encoder's queue. -/
def queueSecondFrame : List VideoAct :=
  Device.acceptRequest.map .device ++ [.write 1 ⟨1, 1⟩ 0 9, .write 1 ⟨1, 1⟩ 1 10] ++
    (Device.deliverResult ⟨1, [⟨1, 1⟩], 1⟩).map .device ++
    [.device (.result .take), .device (.result .callback), .encoder (.result .push)]

/-- The buffers of stream `i` that the encoder has. -/
def encoderAt (cfg : VideoSetup) (v : Video) (i : ℕ) : List Buffer :=
  if i = cfg.videoIndex then v.encoder.outstanding ++ v.encoder.resultPc.frame.toList else []

theorem count_encoderAt (hp : Parts cfg ok v) (i : ℕ) (b : Buffer) :
    (encoderAt cfg v i).count b = v.device.encoder.count (i, b) := by
  rw [encoderAt]
  split_ifs with hi
  · rw [hi, hp.linked.count_encoder (Encoder.custody hp.encoderRun)]
  · rw [List.count_nil, eq_comm, List.count_eq_zero]
    exact fun hmem => hi (hp.linked.manager _ hmem)

/-- **Every buffer is in one place, the encoder's queue and threads included**: with the manager,
the request thread, the HAL, in a message, in the encoder, or dropped by a result that found the
result thread stopped. -/
theorem video_buffers_in_one_place {memory : Buffer → ℕ → UInt8}
    (h : Run cfg Device.HalContract memory v) (hstop : v.device.stopPc ≠ .stopped) (i : ℕ) :
    (v.device.buffersFree i ++ v.device.outAt cfg.device i ++ encoderAt cfg v i).Perm
        (cfg.device.allocated i) ∧
      (v.device.buffersFree i ++ v.device.outAt cfg.device i ++ encoderAt cfg v i).Nodup ∧
      (v.device.resultThread.stopped = false → v.device.dropped = []) := by
  have hp := parts h fun _ _ => trivial
  have hst : v.device.stopPc.stage < 7 := stage_lt_of_ne hstop
  have hperm : (v.device.buffersFree i ++ v.device.outAt cfg.device i ++ encoderAt cfg v i).Perm
      (cfg.device.allocated i) := by
    refine List.perm_iff_count.mpr fun b => ?_
    have hcons := (custody hp (fun _ _ => id) hst).conserved i b
    rw [Device.countOf_eq] at hcons
    simp only [Device.requestSide, Device.resultSide, List.map_append, List.count_append] at hcons
    simp only [Device.outAt, List.count_append, Device.count_atStream, Device.halBuffers,
      List.map_append, count_encoderAt hp]
    omega
  exact ⟨hperm, hperm.nodup_iff.mpr (cfg.device.nodup_allocated i), Device.dropped_eq_nil hp.device⟩

theorem video_buffers_while_copying :
    ∃ v, Run videoOnlySetup Device.HalContract (fun _ _ => 0) v ∧
      v.device.buffersFree 0 = [1] ∧ encoderAt videoOnlySetup v 0 = [0] ∧
      (v.device.buffersFree 0 ++ v.device.outAt videoOnlySetup.device 0 ++
        encoderAt videoOnlySetup v 0).Perm [0, 1] := by
  obtain ⟨v, hr, hpc, hfree, hencoder⟩ :
      ∃ v, Run videoOnlySetup Device.HalContract (fun _ _ => 0) v ∧
        v.device.stopPc = .running ∧ v.device.buffersFree 0 = [1] ∧
        encoderAt videoOnlySetup v 0 = [0] :=
    Reachable.exists_of_exec
      (captureFrame ++ handOverFrame ++ [.encoder (.inFlight .take), .encoder (.inFlight .read)])
      (by decide +kernel)
  exact ⟨v, hr, hfree, hencoder, (video_buffers_in_one_place hr (by simp [hpc]) 0).1⟩

/-! ## The parts -/

/-- **A video case runs as its parts do**: the device makes a run of a device, the encoder a run of
an encoder, what the device takes to be in the encoder is there, and the encoder keeps no thread of
the device from a step outside its own code. -/
theorem runs_as_its_parts {memory : Buffer → ℕ → UInt8} (h : Run cfg ok memory v)
    (hok : ∀ t d, ok (.encoderReturn t) d) :
    Device.Run cfg.device ok v.device ∧
      Encoder.FramesRun cfg.encoder cfg.config.timeOffsetInc (fun _ _ => True) v.encoder
        v.frames ∧
      v.device.encoder.Perm
        ((v.encoder.outstanding ++ v.encoder.resultPc.frame.toList).map (cfg.videoIndex, ·)) ∧
      ∀ a d, v.encoder.fault = none → v.encoder.started = cfg.encoder.inbufs.length →
        v.inDevice a = true → v.device.step cfg.device a = some d →
        ∃ v', step cfg (.device a) v = some v' ∧ v'.device = d := by
  have hp := parts h hok
  refine ⟨hp.device, hp.encoder, List.perm_iff_count.mpr fun t => ?_, ?_⟩
  · obtain ⟨i, b⟩ := t
    rw [← count_encoderAt hp, encoderAt]
    split_ifs with hi
    · rw [hi, List.count_map_of_injective _ _ (Prod.mk_right_injective cfg.videoIndex)]
    · refine (List.count_eq_zero.mpr fun hmem => ?_).symm
      obtain ⟨c, -, hc⟩ := List.mem_map.mp hmem
      exact hi (Prod.mk.inj hc).1.symm
  · intro a d hfault hstarted hin hd
    have hdevice := (Device.Step.of_eq hd).1
    simp only [step, hdevice, hfault, Option.isSome_none, Bool.false_eq_true, or_self, if_false,
      hstarted, hin, and_self, if_true, hd, Option.bind_some]
    cases hact : v.encoderAct cfg d a with
    | none => exact ⟨_, rfl, deviceTo_device a d⟩
    | some e =>
        obtain ⟨s, hs⟩ := not_blocked hp hfault hstarted hin hd hact
        exact ⟨(v.deviceTo cfg a d).encoderTo cfg e s, by simp only [hs, Option.map_some],
          deviceTo_device a d⟩

theorem parts_after_hand_over :
    ∃ v, Run videoOnlySetup Device.HalContract (fun _ _ => 0) v ∧ v.encoder.queued = [0] ∧
      Device.Run videoOnlySetup.device Device.HalContract v.device ∧
      v.device.encoder.Perm ((v.encoder.outstanding ++ v.encoder.resultPc.frame.toList).map
        (videoOnlySetup.videoIndex, ·)) := by
  obtain ⟨v, hr, hqueued⟩ :
      ∃ v, Run videoOnlySetup Device.HalContract (fun _ _ => 0) v ∧ v.encoder.queued = [0] :=
    Reachable.exists_of_exec (captureFrame ++ handOverFrame) (by decide +kernel)
  obtain ⟨hdevice, -, hperm, -⟩ := runs_as_its_parts hr fun _ _ => trivial
  exact ⟨v, hr, hqueued, hdevice, hperm⟩

end Video

end QCamx
