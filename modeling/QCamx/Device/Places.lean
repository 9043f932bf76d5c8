import QCamx.Device.Custody

/-!
# What the custody of the buffers means

* **`given_up_once`**: each buffer of a result is given up exactly once if and only if
  `GivesUpOnce`, and then no free list contains a buffer twice;
* **`buffers_in_one_place`**: in the cases that leave the buffers to the device, the free list, the
  request, the HAL, the messages and the dropped results share the allocated buffers out.
-/

namespace QCamx

open Guarded

namespace Device

variable {cfg : Setup} {s s' : Device}

/-! ## Free lists -/

theorem nodup_buffersFree {ok : Act → Device → Prop} (h : Run cfg ok s)
    (hok : ∀ a s, ok a s → ReturnsGivenOnce cfg a s) (hst : s.stopPc.stage < 7) (i : ℕ) :
    (s.buffersFree i).Nodup := by
  refine List.nodup_iff_count_le_one.mpr fun b => ?_
  have hcons := (custody h hok hst).conserved i b
  have hle := List.nodup_iff_count_le_one.mp (cfg.nodup_allocated i) b
  rw [countOf] at hcons
  omega

/-- **Each buffer of a result is given up exactly once if and only if `GivesUpOnce`**, and in runs
with such results no free list contains a buffer twice before `stop` is called. -/
theorem given_up_once (cfg : Setup) :
    (∀ (r : CaptureResult) (cs : CaseState),
      (∀ b ∈ r.outputBuffers, b.stream ∈ cfg.camera3Streams) → cs.stop = false →
      ((∃ l, giveUps cfg.testCase cfg.config cfg.camera3Streams r cs = some l ∧
        l.Perm (r.outputBuffers.map (atManager cfg.camera3Streams))) ↔
        GivesUpOnce cfg.testCase cfg.config cfg.camera3Streams r.outputBuffers)) ∧
    ∀ s, Run cfg (ReturnsGivenOnce cfg) s → s.stopPc = .running →
      ∀ i, (s.buffersFree i).Nodup := by
  constructor
  · intro r cs hbs hstop
    exact giveUps_perm_iff cfg.length_camera3Streams_le hbs hstop
  · intro s h hpc i
    exact nodup_buffersFree h (fun _ _ => id) (by simp [hpc]) i

theorem given_up_once_in_preview :
    ((∃ l, giveUps .previewOnly {} [1] resultZero {} = some l ∧ l.Perm [(0, 0)]) ↔
      GivesUpOnce .previewOnly {} [1] resultZero.outputBuffers) ∧
    ∃ s, Run (previewSetup 2) (ReturnsGivenOnce (previewSetup 2)) s ∧
      s.buffersFree 0 = [1, 0] ∧ (s.buffersFree 0).Nodup := by
  obtain ⟨s, hr, hpc, hfree⟩ : ∃ s, Run (previewSetup 2) (ReturnsGivenOnce (previewSetup 2)) s ∧
      s.stopPc = .running ∧ s.buffersFree 0 = [1, 0] :=
    Run.exists_of_exec (acceptRequest ++ deliverResult resultZero ++
      [.take, .callback, .callback, .giveBack, .giveBack].map .result) (by decide +kernel)
  obtain ⟨honce, hnodup⟩ := given_up_once (previewSetup 2)
  exact ⟨honce resultZero {} (by decide) rfl, s, hr, hfree, hnodup s hr hpc 0⟩

/-- `previewSetup` as a depth case, with its stream as the depth stream. -/
def depthSetup (n : ℕ) : Setup where
  testCase := .hal3TestDepth
  config := {}
  camera3Streams := (previewSetup n).camera3Streams
  allocated := (previewSetup n).allocated
  nodup_streams := (previewSetup n).nodup_streams
  length_streams := Or.inr rfl
  nodup_allocated := (previewSetup n).nodup_allocated

/-- The depth case and the device both return a buffer; the HAL3 video case with an encoder and the
device both keep it. -/
theorem given_up_twice_or_never :
    giveUps .hal3TestDepth {} [1] resultZero {} = some [(0, 0), (0, 0)] ∧
    giveUps .hal3TestVideo { enableVideoEncoder := true } [1, 2, 3] ⟨0, [⟨2, 0⟩], 1⟩ {} =
      some [] ∧
    ∃ s, Run (depthSetup 2) HalContract s ∧ s.stopPc = .running ∧
      ¬ (s.buffersFree 0).Nodup := by
  refine ⟨by decide, by decide, ?_⟩
  exact Run.exists_of_exec (acceptRequest ++ deliverResult resultZero ++
    [.take, .callback, .callback, .giveBack, .giveBack].map .result) (by decide +kernel)

/-! ## The cases that leave the buffers to the device -/

/-- The buffers of `l` at stream `i`. -/
def atStream (cfg : Setup) (i : ℕ) (l : List StreamBuffer) : List Buffer :=
  ((l.map (atManager cfg.camera3Streams)).filter (·.1 = i)).map Prod.snd

theorem count_atStream (cfg : Setup) (i : ℕ) (l : List StreamBuffer) (b : Buffer) :
    (atStream cfg i l).count b = (l.map (atManager cfg.camera3Streams)).count (i, b) := by
  rw [atStream]
  induction l.map (atManager cfg.camera3Streams) with
  | nil => rfl
  | cons t ts ih =>
      obtain ⟨j, c⟩ := t
      by_cases hj : j = i
      · subst hj
        simp [List.count_cons, ih]
      · simp [hj, ih]

/-- Buffers in flight in the HAL. -/
def halBuffers (s : Device) : List StreamBuffer := s.inFlight.map Prod.snd ++ s.calling

/-- The cases of `SYNC_BUFFER_INTERNAL` mode that do not return buffers themselves. -/
def LeavesBuffers (tc : TestCase) : Prop := tc = .previewOnly ∨ tc = .previewSnapshot

theorem LeavesBuffers.mode (h : LeavesBuffers cfg.testCase) : cfg.syncBufferMode ≠ .external := by
  rcases h with h | h <;> simp [Setup.syncBufferMode, initStreams, h, initPreviewStream,
    initSnapshotStreams]

theorem LeavesBuffers.returnsGivenOnce (h : LeavesBuffers cfg.testCase) {a : Act}
    (hok : HalContract a s) : ReturnsGivenOnce cfg a s := by
  unfold ReturnsGivenOnce
  split
  · refine ⟨hok, ?_⟩
    rcases h with h | h <;> simp [GivesUpOnce, h]
  · trivial

theorem encoder_foldl_applyEffect {effects : List Effect} (s : Device)
    (h : effects.filterMap Effect.givesUp = []) :
    (effects.foldl applyEffect s).encoder = s.encoder := by
  induction effects generalizing s with
  | nil => rfl
  | cons e effects ih =>
      have he := List.filterMap_eq_nil_iff.mp h
      rw [List.foldl_cons, ih _ (List.filterMap_eq_nil_iff.mpr fun e' he' =>
        he e' (List.mem_cons_of_mem _ he'))]
      have hnone := he e List.mem_cons_self
      cases e with
      | returnBuffer | enqueueFrameBuffer => cases hnone
      | _ => rfl

theorem encoder_eq_nil {ok : Act → Device → Prop} (h : Run cfg ok s)
    (hok : ∀ a s, ok a s → ReturnsGivenOnce cfg a s) (hmode : cfg.syncBufferMode ≠ .external) :
    s.encoder = [] := by
  refine Run.invariant (P := fun s => s.encoder = []) h rfl fun s a s' hr hi _ ha hs => ?_
  cases hs with
  | request hs => exact hs.frame.encoder.trans hi
  | hal hs => exact hs.frame.encoder.trans hi
  | result hs =>
      have hst : s.stopPc.stage < 7 := by
        by_contra hle
        exact hs.ne_exited ((stages hr).result (by omega))
      have hcustody := custody hr hok hst
      cases hs with
      | @callback msg b rest effects caseState hpc heff =>
          have hup := hcustody.givesUp_effects ((stages hr).streams hst) hpc heff
          rw [if_neg hmode] at hup
          exact (encoder_foldl_applyEffect s hup).trans hi
      | _ => exact hi
  | encoderReturn ht =>
      rw [hi] at ht
      cases ht
  | stop hs => exact hs.frame.encoder.trans hi
  | user hs => exact hs.frame.encoder.trans hi

theorem stage_of_arrival {ok : Act → Device → Prop} (h : Run cfg ok s) :
    ∀ p ∈ s.log.arrivals, p.2 = true → 4 ≤ s.stopPc.stage := by
  refine Run.invariant (P := fun s => ∀ p ∈ s.log.arrivals, p.2 = true → 4 ≤ s.stopPc.stage) h
    (fun p hp => by cases hp) fun s a s' hr hi _ _ hs p hp hflag => ?_
  have hle := hs.stage_le
  have hkeep : p ∈ s.log.arrivals → 4 ≤ s'.stopPc.stage := fun hp => (hi p hp hflag).trans hle
  cases hs with
  | request hs => exact hkeep (hs.frame.arrivals ▸ hp)
  | hal hs =>
      cases hs with
      | pushStopped hheld hnull hstopped => exact (stages hr).stopped.mp hstopped
      | push hheld hview hnull hstopped =>
          rcases List.mem_append.mp hp with hp | hp
          · exact hkeep hp
          · obtain rfl := List.mem_singleton.mp hp
            cases hflag
      | _ => exact hkeep hp
  | result hs => exact hkeep (hs.frame.arrivals ▸ hp)
  | encoderReturn ht => exact hkeep hp
  | stop hs => exact hkeep (hs.frame.log ▸ hp)
  | user hs => exact hkeep (hs.frame.log ▸ hp)

theorem dropped_eq_nil {ok : Act → Device → Prop} (h : Run cfg ok s)
    (hstopped : s.resultThread.stopped = false) : s.dropped = [] := by
  have hflags : s.log.arrivals.filter (·.2) = [] := by
    refine List.filter_eq_nil_iff.mpr fun p hp hflag => ?_
    rw [(stages h).stopped.mpr (stage_of_arrival h p hp hflag)] at hstopped
    cases hstopped
  rw [dropped, hflags]
  rfl

/-- The buffers of stream `i` that are out. -/
def outAt (cfg : Setup) (s : Device) (i : ℕ) : List Buffer :=
  atStream cfg i s.requestPc.buffers ++ atStream cfg i s.halBuffers ++
    atStream cfg i (s.messageBuffers cfg) ++ atStream cfg i s.dropped

/-- **Every allocated buffer is in exactly one place**, and nothing is dropped before the result
thread is stopped. -/
theorem buffers_in_one_place (htc : LeavesBuffers cfg.testCase) (h : Run cfg HalContract s)
    (hstop : s.stopPc ≠ .stopped) (i : ℕ) :
    (s.buffersFree i ++ s.outAt cfg i).Perm (cfg.allocated i) ∧
      (s.buffersFree i ++ s.outAt cfg i).Nodup ∧
      (s.buffersFree i).length + (s.outAt cfg i).length = (cfg.allocated i).length ∧
      (s.resultThread.stopped = false → s.dropped = []) := by
  have hok : ∀ a s, HalContract a s → ReturnsGivenOnce cfg a s :=
    fun _ _ => htc.returnsGivenOnce
  have hst : s.stopPc.stage < 7 := by
    cases hpc : s.stopPc with
    | stopped => exact absurd hpc hstop
    | _ => simp
  have hperm : (s.buffersFree i ++ s.outAt cfg i).Perm (cfg.allocated i) := by
    refine List.perm_iff_count.mpr fun b => ?_
    have hcons := (custody h hok hst).conserved i b
    rw [countOf_eq, encoder_eq_nil h hok htc.mode] at hcons
    simp only [requestSide, resultSide, List.map_append, List.count_append, List.count_nil]
      at hcons
    simp only [outAt, List.count_append, count_atStream, halBuffers, List.map_append]
    omega
  refine ⟨hperm, hperm.nodup_iff.mpr (cfg.nodup_allocated i), ?_, dropped_eq_nil h⟩
  rw [← hperm.length_eq, List.length_append]

theorem buffers_in_one_place_after_reject :
    ∃ s, Run (previewSetup 2) HalContract s ∧ s.buffersFree 0 = [1] ∧
      s.requestPc.buffers = [⟨1, 0⟩] ∧
      (s.buffersFree 0 ++ s.outAt (previewSetup 2) 0).Perm [0, 1] := by
  obtain ⟨s, hr, hpc, hfree, hbuffers⟩ : ∃ s, Run (previewSetup 2) HalContract s ∧
      s.stopPc = .running ∧ s.buffersFree 0 = [1] ∧ s.requestPc.buffers = [⟨1, 0⟩] :=
    Run.exists_of_exec (assembleRequest ++ [.submit false, .return].map .request)
      (by decide +kernel)
  exact ⟨s, hr, hfree, hbuffers,
    (buffers_in_one_place (Or.inl rfl) hr (by simp [hpc]) 0).1⟩

end Device

end QCamx
