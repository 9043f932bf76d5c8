import QCamx.Device.Delivery

/-!
# Where the buffers are

Every buffer a stream allocated is in one place at any time: the free list of its manager, with the
request thread, with the HAL, in a message or in the hands of the result thread, in the encoder's
queue, or dropped by a call that found the result thread stopped. The places are counted together:
a step takes a buffer from one and adds it to another.

* `requestSide`, `resultSide`, `outside`: the places other than the free lists;
* `GivenOnce`: the case or the device gives a buffer up, not both and not neither;
* **`Custody`**, `Custody.step`: the counts add up in every run in which each buffer that the HAL
  returns is given up once.
-/

namespace QCamx

/-- The buffers the request thread has collected and not handed to the HAL. -/
def RequestPc.buffers : RequestPc → List StreamBuffer
  | assemble _ _ buffers | settings _ buffers | insert _ buffers _ | submit _ buffers
  | inCall _ buffers false | reject buffers => buffers
  | _ => []

/-- The buffers of the message that the result thread is at, which it has yet to give up. -/
def ResultPc.buffers (mode : SyncBufferMode) : ResultPc → List StreamBuffer
  | callback msg rest => if mode = .external then rest else msg.streamBuffers
  | giveBack _ rest => rest
  | _ => []

namespace Device

variable (cfg : Setup) (s : Device)

/-! ## Places -/

/-- Buffers with the request thread or the HAL. -/
def requestSide : List StreamBuffer := s.requestPc.buffers ++ s.inFlight.map Prod.snd

/-- Buffers in calls of `ProcessCaptureResult` that have not pushed. -/
def calling : List StreamBuffer :=
  s.entering.flatMap (·.outputBuffers) ++
    match s.holder with
    | some (r, false) => r.outputBuffers
    | _ => []

/-- Buffers in messages, queued or being processed. -/
def messageBuffers : List StreamBuffer :=
  s.resultThread.messageQueue.items.flatMap (·.streamBuffers) ++
    s.resultPc.buffers cfg.syncBufferMode

/-- Buffers of results that found the `stopped` flag set. -/
def dropped : List StreamBuffer :=
  (s.log.arrivals.filter (·.2)).flatMap (·.1.outputBuffers)

def resultSide : List StreamBuffer := s.calling ++ s.messageBuffers cfg ++ s.dropped

/-- Every place but the free lists. -/
def outside : List (ℕ × Buffer) :=
  s.encoder ++ (s.requestSide ++ s.resultSide cfg).map (atManager cfg.camera3Streams)

/-- A buffer of the case's streams that the case gives up if and only if the device does not. -/
def GivenOnce (b : StreamBuffer) : Prop :=
  b.stream ∈ cfg.camera3Streams ∧ ∀ stop,
    (caseGives cfg.testCase cfg.config stop (cfg.camera3Streams.idxOf b.stream) = true ↔
      cfg.syncBufferMode = .external)

/-- Buffers on their way from the HAL to the end of their processing. -/
def delivering : List StreamBuffer :=
  s.calling ++ s.resultThread.messageQueue.items.flatMap (·.streamBuffers) ++
    match s.resultPc with
    | .callback msg rest => msg.streamBuffers ++ rest
    | .giveBack _ rest => rest
    | _ => []

/-- The number of times a buffer is anywhere. -/
def countOf (i : ℕ) (b : Buffer) : ℕ :=
  (s.buffersFree i).count b + (s.outside cfg).count (i, b)

/-- The HAL returns buffers it holds, each of which will be given up once. -/
def ReturnsGivenOnce (cfg : Setup) : Act → Device → Prop
  | .hal (.call r), s =>
      HalContract (.hal (.call r)) s ∧
        GivesUpOnce cfg.testCase cfg.config cfg.camera3Streams r.outputBuffers
  | _, _ => True

instance : ∀ (a : Act) (s : Device), Decidable (ReturnsGivenOnce cfg a s)
  | .hal (.call _), _ => instDecidableAnd
  | .hal (.lock _), _ | .hal (.push _), _ | .hal .unlock, _ | .hal (.count _), _ | .request _, _
  | .result _, _ | .encoderReturn _, _ | .stop _, _ | .user _, _ => isTrue trivial

/-- **Each buffer is where it was allocated or in one other place.** -/
structure Custody : Prop where
  conserved : ∀ i b, s.countOf cfg i b = (cfg.allocated i).count b
  known : ∀ b ∈ s.requestSide, b.stream ∈ cfg.camera3Streams
  once : ∀ b ∈ s.delivering, GivenOnce cfg b

variable {cfg s} {s' : Device}

/-! ## Counting -/

theorem count_returnBuffer (s : Device) (j : ℕ) (c : Buffer) (i : ℕ) (b : Buffer) :
    ((s.returnBuffer j c).buffersFree i).count b =
      (s.buffersFree i).count b + [(j, c)].count (i, b) := by
  rcases eq_or_ne i j with rfl | hne
  · have hfree : (s.returnBuffer i c).buffersFree i = s.buffersFree i ++ [c] := by
      simp [buffersFree, returnBuffer, BufferManager.returnBuffer, BlockingQueue.push]
    rw [hfree, List.count_append]
    simp [List.count_singleton]
  · have hfree : (s.returnBuffer j c).buffersFree i = s.buffersFree i := by
      simp [buffersFree, returnBuffer, Function.update_of_ne hne]
    rw [hfree]
    simp [hne.symm]

theorem buffersFree_update (s : Device) (j : ℕ) (m : BufferManager) (i : ℕ) :
    (Function.update s.managers j m i).buffersFree.items =
      if i = j then m.buffersFree.items else s.buffersFree i := by
  rcases eq_or_ne i j with rfl | hne
  · simp
  · simp [buffersFree, hne]

theorem buffersFree_wait (s : Device) {j : ℕ} {m : BufferManager}
    (hm : m.buffersFree.items = (s.buffersFree j).tail) (hfree : s.buffersFree j = []) (i : ℕ) :
    (Function.update s.managers j m i).buffersFree.items = s.buffersFree i := by
  rw [buffersFree_update]
  split_ifs with hi
  · rw [hm, hi, hfree]
    rfl
  · rfl

theorem count_getBuffer (s : Device) {j : ℕ} {m : BufferManager} {b : Buffer} {l : List Buffer}
    (hm : m.buffersFree.items = (s.buffersFree j).tail) (hfree : s.buffersFree j = b :: l)
    (i : ℕ) (c : Buffer) :
    (Function.update s.managers j m i).buffersFree.items.count c + [(j, b)].count (i, c) =
      (s.buffersFree i).count c := by
  rw [buffersFree_update]
  by_cases hi : i = j
  · subst hi
    rw [if_pos rfl, hm, hfree, List.tail_cons, List.count_singleton, List.count_cons]
    by_cases hc : b = c
    · simp [hc]
    · simp [hc]
  · simp [hi, Ne.symm hi]

theorem count_foldl_applyEffect (effects : List Effect) (s : Device) (i : ℕ) (b : Buffer) :
    ((effects.foldl applyEffect s).buffersFree i).count b +
        (effects.foldl applyEffect s).encoder.count (i, b) =
      (s.buffersFree i).count b + s.encoder.count (i, b) +
        (effects.filterMap Effect.givesUp).count (i, b) := by
  induction effects generalizing s with
  | nil => rfl
  | cons e effects ih =>
      rw [List.foldl_cons, ih]
      cases e with
      | returnBuffer j c =>
          have hreturn := count_returnBuffer s j c i b
          have hgives : Effect.givesUp (.returnBuffer j c) = some (j, c) := rfl
          rw [List.filterMap_cons_some hgives, List.count_cons]
          rw [List.count_singleton] at hreturn
          show ((s.returnBuffer j c).buffersFree i).count b + s.encoder.count (i, b) + _ = _
          omega
      | enqueueFrameBuffer j c =>
          have hgives : Effect.givesUp (.enqueueFrameBuffer j c) = some (j, c) := rfl
          rw [List.filterMap_cons_some hgives, List.count_cons]
          show (s.buffersFree i).count b + (s.encoder ++ [(j, c)]).count (i, b) + _ = _
          rw [List.count_append, List.count_singleton]
          omega
      | previewCb | snapshotCb | videoCb | dumpFrame | showFps => rfl

theorem countOf_eq (s : Device) (i : ℕ) (b : Buffer) :
    s.countOf cfg i b = (s.buffersFree i).count b + s.encoder.count (i, b) +
      ((s.requestSide).map (atManager cfg.camera3Streams)).count (i, b) +
      ((s.resultSide cfg).map (atManager cfg.camera3Streams)).count (i, b) := by
  rw [countOf, outside, List.map_append, List.count_append, List.count_append]
  omega

namespace Custody

theorem init (cfg : Setup) : Custody cfg cfg.init where
  conserved i b := by
    have hout : cfg.init.outside cfg = [] := rfl
    rw [countOf, hout]
    rfl
  known b hb := by cases hb
  once b hb := by cases hb

/-! ## The request thread -/

theorem of_request (h : Custody cfg s) (hf : RequestFrame s s')
    (hmove : ∀ i b, (s'.buffersFree i).count b +
        (s'.requestSide.map (atManager cfg.camera3Streams)).count (i, b) =
      (s.buffersFree i).count b +
        (s.requestSide.map (atManager cfg.camera3Streams)).count (i, b))
    (hknown : ∀ b ∈ s'.requestSide, b.stream ∈ cfg.camera3Streams) : Custody cfg s' where
  conserved i b := by
    have hresult : s'.resultSide cfg = s.resultSide cfg := by
      simp only [resultSide, calling, messageBuffers, dropped, hf.entering, hf.holder,
        hf.resultThread, hf.resultPc, hf.arrivals]
    have hcons := h.conserved i b
    have hmove := hmove i b
    rw [countOf_eq] at hcons ⊢
    rw [hf.encoder, hresult]
    omega
  known := hknown
  once := by
    have hdelivering : s'.delivering = s.delivering := by
      simp only [delivering, calling, hf.entering, hf.holder, hf.resultThread, hf.resultPc]
    rw [hdelivering]
    exact h.once

theorem of_idle (h : Custody cfg s) (hf : RequestFrame s s')
    (hfree : ∀ i, s'.buffersFree i = s.buffersFree i)
    (hside : s'.requestSide = s.requestSide) : Custody cfg s' :=
  h.of_request hf (fun i b => by rw [hfree, hside]) (by rw [hside]; exact h.known)

theorem of_wait (h : Custody cfg s) (hf : RequestFrame s s') {j : ℕ} {m : BufferManager}
    (hmanagers : s'.managers = Function.update s.managers j m)
    (hm : m.buffersFree.items = (s.buffersFree j).tail) (hfree : s.buffersFree j = [])
    (hside : s'.requestSide = s.requestSide) : Custody cfg s' := by
  refine h.of_idle hf (fun i => ?_) hside
  rw [buffersFree, hmanagers]
  exact buffersFree_wait s hm hfree i

theorem getBuffer (h : Custody cfg s) (hf : RequestFrame s s') {j : ℕ} {m : BufferManager}
    {stream : StreamPtr} {b : Buffer} {l : List Buffer}
    (hmanagers : s'.managers = Function.update s.managers j m)
    (hm : m.buffersFree.items = (s.buffersFree j).tail) (hfree : s.buffersFree j = b :: l)
    (hj : cfg.camera3Streams[j]? = some stream)
    (hside : s'.requestSide.Perm (⟨stream, b⟩ :: s.requestSide)) : Custody cfg s' := by
  obtain ⟨hlt, rfl⟩ := List.getElem?_eq_some_iff.mp hj
  have hat : atManager cfg.camera3Streams ⟨cfg.camera3Streams[j], b⟩ = (j, b) := by
    rw [atManager, cfg.nodup_streams.idxOf_getElem]
  refine h.of_request hf (fun i c => ?_) fun c hc => ?_
  · have hcount := count_getBuffer s hm hfree i c
    rw [List.count_singleton] at hcount
    rw [(hside.map _).count_eq, List.map_cons, hat, List.count_cons, buffersFree, hmanagers]
    omega
  · rcases List.mem_cons.mp (hside.mem_iff.mp hc) with rfl | hc
    · exact List.getElem_mem hlt
    · exact h.known c hc

theorem giveBack (h : Custody cfg s) (hf : RequestFrame s s') {b : StreamBuffer}
    (hmanagers : s'.managers =
      (s.returnBuffer (cfg.camera3Streams.idxOf b.stream) b.buffer).managers)
    (hside : s.requestSide = b :: s'.requestSide) : Custody cfg s' := by
  refine h.of_request hf (fun i c => ?_) fun c hc => h.known c (hside ▸ List.mem_cons_of_mem _ hc)
  have hreturn := count_returnBuffer s (cfg.camera3Streams.idxOf b.stream) b.buffer i c
  rw [buffersFree, ← hmanagers, ← buffersFree, List.count_singleton] at hreturn
  rw [hside, List.map_cons, List.count_cons, hreturn, atManager]
  omega

theorem request {a : RequestAct} (h : Custody cfg s)
    (hstreams : s.camera3Streams = cfg.camera3Streams) (hs : RequestStep cfg s a s') :
    Custody cfg s' := by
  have hf := hs.frame
  have hside : ∀ {pc}, s.requestPc = pc →
      s.requestSide = pc.buffers ++ s.inFlight.map Prod.snd := fun hpc => by
    rw [requestSide, hpc]
  cases hs with
  | bufferWait hpc hi hsel hm hfree =>
      exact h.of_wait hf rfl (BufferManager.items_getBuffer (w := .signal) (Or.inl rfl) hm) hfree
        rfl
  | bufferWakeEmpty hpc hi hm hfree =>
      exact h.of_wait hf rfl (BufferManager.items_getBuffer (Or.inr rfl) hm) hfree rfl
  | @getBuffer selected i buffers stream m b l _ ha hpc hi hsel hfree =>
      have hm : m.buffersFree.items = (s.buffersFree i).tail := by
        rcases ha with ⟨-, hm⟩ | ⟨w, -, hm⟩
        · exact BufferManager.items_getBuffer (w := .signal) (Or.inl rfl) hm
        · exact BufferManager.items_getBuffer (Or.inr rfl) hm
      refine h.getBuffer hf rfl hm hfree (hstreams ▸ hi) ?_
      rw [hside hpc, requestSide]
      simp only [RequestPc.buffers, List.append_assoc, List.singleton_append]
      exact List.perm_middle
  | rejectReturn hpc hfreed hi =>
      rename_i b rest i
      have hmem : b.stream ∈ cfg.camera3Streams := h.known b (by
        rw [hside hpc]
        simp [RequestPc.buffers])
      rw [hstreams, findStreamIndex_of_mem hmem] at hi
      obtain rfl := Option.some.inj hi
      exact h.giveBack hf rfl (by rw [hside hpc]; rfl)
  | submit hpc hfreed =>
      rename_i selected buffers accepted
      have hperm : ∀ s' : Device, s'.inFlight = (if accepted then
            s.inFlight ++ buffers.map fun b => (s.requestThread.frameNumber, b) else s.inFlight) →
          s'.requestPc = .inCall selected buffers accepted →
          s'.requestSide.Perm s.requestSide := by
        intro s' hin hpc'
        rw [hside hpc, requestSide, hin, hpc']
        cases accepted with
        | false => exact List.Perm.refl _
        | true =>
            simp only [RequestPc.buffers, if_true, List.map_append, List.map_map,
              List.nil_append]
            refine List.perm_append_comm.trans (List.Perm.of_eq ?_)
            simp [Function.comp_def]
      refine h.of_request hf (fun i b => ?_) fun b hb => h.known b ?_
      · rw [((hperm _ rfl rfl).map _).count_eq]
        rfl
      · exact (hperm _ rfl rfl).mem_iff.mp hb
  | exit hpc | otherMessage hpc | start hpc | idle hpc | wakeMessage hpc | limitWait hpc
  | limitPass hpc | limitTimeout hpc | limitWake hpc | assembled hpc | skip hpc | settings hpc
  | insert hpc | returnAccepted hpc | returnRejected hpc | unlock _ hpc | rejectRemove hpc
  | rejectAbsent hpc | decrement hpc =>
      exact h.of_idle hf (fun _ => rfl) (by rw [hside hpc]; rfl)
  | _ => exact h.of_idle hf (fun _ => rfl) rfl

/-! ## The HAL -/

theorem of_hal (h : Custody cfg s) (hf : HalFrame s s')
    (hmove : (s'.inFlight.map Prod.snd ++ s'.resultSide cfg).Perm
      (s.inFlight.map Prod.snd ++ s.resultSide cfg))
    (hin : s'.inFlight ⊆ s.inFlight) (honce : ∀ b ∈ s'.delivering, GivenOnce cfg b) :
    Custody cfg s' where
  conserved i b := by
    have hfree : s'.buffersFree i = s.buffersFree i := by rw [buffersFree, hf.managers]; rfl
    have hcons := h.conserved i b
    have hmove := (hmove.map (atManager cfg.camera3Streams)).count_eq (i, b)
    rw [countOf_eq] at hcons ⊢
    simp only [requestSide, hf.requestPc, hf.encoder, hfree, List.map_append, List.count_append]
      at hcons hmove ⊢
    omega
  known b hb := by
    refine h.known b ?_
    rw [requestSide, hf.requestPc] at hb
    rcases List.mem_append.mp hb with hb | hb
    · exact List.mem_append_left _ hb
    · obtain ⟨t, ht, rfl⟩ := List.mem_map.mp hb
      exact List.mem_append_right _ (List.mem_map_of_mem (hin ht))
  once := honce

theorem hal {a : HalAct} (h : Custody cfg s) (hok : ReturnsGivenOnce cfg (.hal a) s)
    (hs : HalStep s a s') : Custody cfg s' := by
  have hf := hs.frame
  have honce := h.once
  have hidle : s'.inFlight = s.inFlight → s'.entering = s.entering → s'.holder = s.holder →
      s'.resultThread = s.resultThread → s'.log.arrivals = s.log.arrivals → Custody cfg s' := by
    intro hin hentering hholder hthread harrivals
    have hcalling : s'.calling = s.calling := by rw [calling, hentering, hholder]; rfl
    refine h.of_hal hf (List.Perm.of_eq ?_) (by rw [hin]; exact List.Subset.refl _) ?_
    · rw [hin, resultSide, hcalling, messageBuffers, hthread, hf.resultPc, dropped, harrivals]
      rfl
    · rw [delivering, hcalling, hthread, hf.resultPc]
      exact h.once
  cases hs with
  | @call r hr =>
      obtain ⟨⟨-, hsub⟩, hgives⟩ := hok
      have hperm : (r.outputBuffers ++ (s.inFlight.diff
          (r.outputBuffers.map fun b => (r.frameNumber, b))).map Prod.snd).Perm
          (s.inFlight.map Prod.snd) := by
        have hdiff := (List.subperm_append_diff_self_of_count_le
          (List.subperm_ext_iff.mp hsub)).map Prod.snd
        simpa [Function.comp_def] using hdiff
      refine h.of_hal hf ?_ (List.diff_subset _ _) fun b hb => ?_
      · refine List.perm_iff_count.mpr fun b => ?_
        have hcount := hperm.count_eq b
        simp only [resultSide, calling, messageBuffers, dropped, List.flatMap_cons,
          List.count_append] at hcount ⊢
        omega
      · simp only [delivering, calling, List.flatMap_cons, List.append_assoc] at hb
        rcases List.mem_append.mp hb with hb | hb
        · refine ⟨h.known b (List.mem_append_right _ ?_), hgives.caseGives_iff hb⟩
          exact hperm.mem_iff.mp (List.mem_append_left _ hb)
        · exact h.once b (by simpa only [delivering, calling, List.append_assoc] using hb)
  | @lock r hr hheld hnull =>
      have hperm := (List.perm_cons_erase hr).flatMap_right CaptureResult.outputBuffers
      have hcalling : (s.entering.erase r).flatMap CaptureResult.outputBuffers ++ r.outputBuffers
          |>.Perm s.calling := by
        rw [calling, hheld, List.append_nil]
        exact List.perm_append_comm.trans hperm.symm
      refine h.of_hal hf (List.Perm.append_left _ ?_) (List.Subset.refl _) fun b hb => ?_
      · exact (hcalling.append_right _).append_right _
      · refine h.once b (((hcalling.append_right _).append_right _).mem_iff.mp ?_)
        exact hb
  | @pushStopped r view hheld hnull hstopped =>
      refine h.of_hal hf (List.Perm.append_left _ ?_) (List.Subset.refl _) fun b hb => ?_
      · refine List.perm_iff_count.mpr fun b => ?_
        simp only [resultSide, calling, messageBuffers, dropped, hheld, List.filter_append,
          List.flatMap_append, List.count_append]
        simp
        omega
      · refine h.once b ?_
        simp only [delivering, calling, hheld, List.mem_append] at hb ⊢
        tauto
  | @push r view hheld hview hnull hstopped =>
      refine h.of_hal hf (List.Perm.append_left _ ?_) (List.Subset.refl _) fun b hb => ?_
      · refine List.perm_iff_count.mpr fun b => ?_
        simp only [resultSide, calling, messageBuffers, dropped, hheld, pushResult,
          BlockingQueue.push, List.filter_append, List.flatMap_append, List.count_append]
        simp
        omega
      · refine h.once b ?_
        simp only [delivering, calling, hheld, pushResult, BlockingQueue.push,
          List.flatMap_append, List.flatMap_singleton, List.mem_append] at hb ⊢
        tauto
  | unlock hheld hnull =>
      refine h.of_hal hf (List.Perm.of_eq ?_) (List.Subset.refl _) fun b hb => h.once b ?_
      · simp [resultSide, calling, messageBuffers, dropped, hheld]
      · simpa [delivering, calling, hheld] using hb
  | _ => exact hidle rfl rfl rfl rfl rfl

/-! ## The result thread -/

theorem of_result (h : Custody cfg s) (hf : ResultFrame s s')
    (hmove : ∀ i b, (s'.buffersFree i).count b + s'.encoder.count (i, b) +
        ((s'.messageBuffers cfg).map (atManager cfg.camera3Streams)).count (i, b) =
      (s.buffersFree i).count b + s.encoder.count (i, b) +
        ((s.messageBuffers cfg).map (atManager cfg.camera3Streams)).count (i, b))
    (honce : s'.delivering ⊆ s.delivering) : Custody cfg s' where
  conserved i b := by
    have hcalling : s'.calling = s.calling := by rw [calling, hf.entering, hf.holder]; rfl
    have hdropped : s'.dropped = s.dropped := by rw [dropped, hf.arrivals]; rfl
    have hcons := h.conserved i b
    have hmove := hmove i b
    rw [countOf_eq] at hcons ⊢
    simp only [requestSide, resultSide, hf.requestPc, hf.inFlight, hcalling, hdropped,
      List.map_append, List.count_append] at hcons ⊢
    omega
  known := by rw [requestSide, hf.requestPc, hf.inFlight]; exact h.known
  once b hb := h.once b (honce hb)

theorem of_message (h : Custody cfg s) (hf : ResultFrame s s')
    (hmanagers : s'.managers = s.managers) (hencoder : s'.encoder = s.encoder)
    (hmessage : s'.messageBuffers cfg = s.messageBuffers cfg)
    (honce : s'.delivering ⊆ s.delivering) : Custody cfg s' :=
  h.of_result hf (fun i b => by rw [buffersFree, hmanagers, hencoder, hmessage]; rfl) honce

theorem givesUp_effects (h : Custody cfg s) {msg : CameraPostProcessMsg} {b : StreamBuffer}
    {rest : List StreamBuffer} {effects : List Effect} {caseState : CaseState}
    (hstreams : s.camera3Streams = cfg.camera3Streams)
    (hpc : s.resultPc = .callback msg (b :: rest))
    (heff : postProcessStep cfg.testCase cfg.config s.camera3Streams cfg.cameraStreams
      msg.result.frameNumber b s.caseState = some (effects, caseState)) :
    effects.filterMap Effect.givesUp =
      if cfg.syncBufferMode = .external then [atManager cfg.camera3Streams b] else [] := by
  obtain ⟨hmem, hgives⟩ := h.once b (by simp [delivering, hpc])
  obtain ⟨eff, cs, hstep, -, hup⟩ :=
    postProcessStep_spec cfg.length_camera3Streams_le msg.result.frameNumber hmem s.caseState
  rw [hstreams] at heff
  obtain ⟨rfl, rfl⟩ := Prod.mk.inj (Option.some.inj (hstep.symm.trans heff))
  rw [hup]
  exact if_congr (hgives _) rfl rfl

theorem callback (h : Custody cfg s) {msg : CameraPostProcessMsg} {b : StreamBuffer}
    {rest : List StreamBuffer} {effects : List Effect} {caseState : CaseState}
    (hstreams : s.camera3Streams = cfg.camera3Streams)
    (hpc : s.resultPc = .callback msg (b :: rest))
    (heff : postProcessStep cfg.testCase cfg.config s.camera3Streams cfg.cameraStreams
      msg.result.frameNumber b s.caseState = some (effects, caseState))
    (hs : ResultStep cfg s .callback s') (hs' : s' =
      { effects.foldl applyEffect s with
        caseState := caseState
        resultPc := .callback msg rest
        log := { s.log with effects := s.log.effects ++ effects } }) : Custody cfg s' := by
  have hf := hs.frame
  have hup := h.givesUp_effects hstreams hpc heff
  have hthread : s'.resultThread = s.resultThread := by
    obtain ⟨managers, encoder, he⟩ := foldl_applyEffect effects s
    rw [hs', he]
  have hpc' : s'.resultPc = .callback msg rest := by rw [hs']
  refine h.of_result hf (fun i c => ?_) fun c hc => ?_
  · have hcount := count_foldl_applyEffect effects s i c
    have hfree : s'.buffersFree i = (effects.foldl applyEffect s).buffersFree i := by rw [hs']; rfl
    have hencoder : s'.encoder = (effects.foldl applyEffect s).encoder := by rw [hs']
    rw [hup] at hcount
    rw [hfree, hencoder, messageBuffers, messageBuffers, hthread, hpc, hpc']
    simp only [ResultPc.buffers, List.map_append, List.count_append]
    by_cases hmode : cfg.syncBufferMode = .external
    · rw [if_pos hmode, List.count_singleton] at hcount
      rw [if_pos hmode, if_pos hmode, List.map_cons, List.count_cons]
      omega
    · rw [if_neg hmode, List.count_nil] at hcount
      rw [if_neg hmode, if_neg hmode]
      omega
  · simp only [delivering, calling, hf.entering, hf.holder, hthread, hpc, hpc', List.mem_append,
      List.mem_cons] at hc ⊢
    tauto

theorem result {a : ResultAct} (h : Custody cfg s)
    (hstreams : s.camera3Streams = cfg.camera3Streams)
    (hstop : ∀ msg ∈ s.resultThread.messageQueue.items, msg.stop = true → msg = stopMsg)
    (hs : ResultStep cfg s a s') : Custody cfg s' := by
  have hf := hs.frame
  have hs₀ := hs
  have hqueue : s'.managers = s.managers → s'.encoder = s.encoder →
      s'.resultThread.messageQueue.items = s.resultThread.messageQueue.items →
      s'.resultPc = s.resultPc → Custody cfg s' := by
    intro hmanagers hencoder hitems hpc
    refine h.of_message hf hmanagers hencoder ?_ fun c hc => ?_
    · rw [messageBuffers, hitems, hpc]
      rfl
    · simpa only [delivering, calling, hf.entering, hf.holder, hitems, hpc] using hc
  cases hs with
  | wait hpc hheld hact hq hitems =>
      refine hqueue rfl rfl ?_ rfl
      rw [items_takeAct hact hq]
      rcases hitems with rfl | ⟨rfl, hitems⟩
      · rw [if_pos rfl]
      · simp [hitems]
  | wakeEmpty hpc hheld hw hq hitems =>
      refine hqueue rfl rfl ?_ rfl
      rw [fail, items_takeAct (a := .wake _) rfl hq, if_neg (by simpa using hw), hitems]
      rfl
  | popStop hpc hheld ha hact hq hitems hmsg =>
      have hq' := items_takeAct hact hq
      rw [if_neg ha, hitems, List.tail_cons] at hq'
      obtain rfl := hstop _ (by rw [hitems]; exact List.mem_cons_self) hmsg
      refine h.of_message hf rfl rfl ?_ fun c hc => ?_
      · simp [messageBuffers, hq', hitems, hpc, ResultPc.buffers, stopMsg]
      · simp only [delivering, calling, hq', hitems, hpc, List.flatMap_cons, List.mem_append]
          at hc ⊢
        tauto
  | pop hpc hheld ha hact hq hitems hmsg =>
      have hq' := items_takeAct hact hq
      rw [if_neg ha, hitems, List.tail_cons] at hq'
      refine h.of_result hf (fun i c => ?_) fun c hc => ?_
      · simp only [messageBuffers, hq', hitems, hpc, ResultPc.buffers, List.flatMap_cons,
          List.map_append, List.count_append, ite_self, List.append_nil]
        show (s.buffersFree i).count c + _ + _ = _
        omega
      · simp only [delivering, calling, hq', hitems, hpc, List.flatMap_cons, List.mem_append]
          at hc ⊢
        tauto
  | callback hpc heff => exact h.callback hstreams hpc heff hs₀ rfl
  | callbackInternal hpc hmode =>
      refine h.of_message hf rfl rfl ?_ fun c hc => ?_
      · simp [messageBuffers, hpc, ResultPc.buffers, hmode]
      · simpa [delivering, calling, hpc] using hc
  | callbackExternal hpc hmode =>
      refine h.of_message hf rfl rfl ?_ fun c hc => ?_
      · simp [messageBuffers, hpc, ResultPc.buffers, hmode]
      · simp only [delivering, calling, hpc, List.mem_append] at hc ⊢
        tauto
  | giveBack hpc hi =>
      rename_i msg b rest i
      obtain ⟨hmem, -⟩ := h.once b (by simp [delivering, hpc])
      rw [hstreams, findStreamIndex_of_mem hmem] at hi
      obtain rfl := Option.some.inj hi
      refine h.of_result hf (fun i c => ?_) fun c hc => ?_
      · have hreturn := count_returnBuffer s (cfg.camera3Streams.idxOf b.stream) b.buffer i c
        rw [List.count_singleton] at hreturn
        simp only [messageBuffers, hpc, ResultPc.buffers, List.map_append, List.map_cons,
          List.count_append, List.count_cons, atManager]
        show ((s.returnBuffer _ b.buffer).buffersFree i).count c + s.encoder.count (i, c) +
          (((s.resultThread.messageQueue.items.flatMap _).map _).count (i, c) + _) = _
        omega
      · simp only [delivering, calling, returnBuffer, hpc, List.mem_append, List.mem_cons] at hc ⊢
        tauto
  | giveBackDone hpc =>
      refine h.of_message hf rfl rfl ?_ fun c hc => ?_
      · simp [messageBuffers, hpc, ResultPc.buffers]
      · simpa [delivering, calling, hpc] using hc
  | callbackUnknown | giveBackUnknown =>
      exact h.of_message hf rfl rfl rfl (List.Subset.refl _)

theorem encoderReturn (h : Custody cfg s) {t : ℕ × Buffer} (ht : t ∈ s.encoder) :
    Custody cfg { s.returnBuffer t.1 t.2 with encoder := s.encoder.erase t } := by
  refine h.of_result (encoderReturn_frame t s) (fun i c => ?_) (List.Subset.refl _)
  obtain ⟨j, b⟩ := t
  have hreturn := count_returnBuffer s j b i c
  have herase := (List.perm_cons_erase ht).count_eq (i, c)
  rw [List.count_singleton] at hreturn
  rw [List.count_cons] at herase
  show ((s.returnBuffer j b).buffersFree i).count c + (s.encoder.erase (j, b)).count (i, c) +
    ((s.messageBuffers cfg).map _).count (i, c) = _
  omega

/-! ## All threads -/

theorem of_same (h : Custody cfg s) (hmanagers : s'.managers = s.managers)
    (hencoder : s'.encoder = s.encoder) (hpc : s'.requestPc = s.requestPc)
    (hin : s'.inFlight = s.inFlight) (hcalling : s'.calling = s.calling)
    (hitems : s'.resultThread.messageQueue.items.flatMap (·.streamBuffers) =
      s.resultThread.messageQueue.items.flatMap (·.streamBuffers))
    (hresult : s'.resultPc = s.resultPc) (harrivals : s'.log.arrivals = s.log.arrivals) :
    Custody cfg s' where
  conserved i b := by
    have hcount : s'.countOf cfg i b = s.countOf cfg i b := by
      simp only [countOf, outside, requestSide, resultSide, messageBuffers, dropped, buffersFree,
        hmanagers, hencoder, hpc, hin, hcalling, hitems, hresult, harrivals]
    rw [hcount]
    exact h.conserved i b
  known := by rw [requestSide, hpc, hin]; exact h.known
  once := by rw [delivering, hcalling, hitems, hresult]; exact h.once

theorem stop {a : StopAct} (h : Custody cfg s) (hs : StopStep cfg s a s') : Custody cfg s' := by
  have hf := hs.frame
  refine h.of_same hf.managers hf.encoder hf.requestPc hf.inFlight ?_ ?_ hf.resultPc
    (by rw [hf.log])
  · rw [calling, hf.entering, hf.holder]
    rfl
  · cases hs with
    | postResult hpc hheld => simp [BlockingQueue.push]
    | _ => rfl

theorem user {a : UserAct} (h : Custody cfg s) (hs : UserStep cfg s a s') : Custody cfg s' := by
  have hf := hs.frame
  refine h.of_same hf.managers hf.encoder hf.requestPc hf.inFlight ?_ (by rw [hf.resultThread])
    hf.resultPc (by rw [hf.log])
  rw [calling, hf.entering, hf.holder]
  rfl

theorem step {a : Act} (h : Custody cfg s) (hok : ReturnsGivenOnce cfg a s)
    (hstreams : s.camera3Streams = cfg.camera3Streams)
    (hstop : ∀ msg ∈ s.resultThread.messageQueue.items, msg.stop = true → msg = stopMsg)
    (hs : Step cfg s a s') : Custody cfg s' := by
  cases hs with
  | request hs => exact h.request hstreams hs
  | hal hs => exact h.hal hok hs
  | result hs => exact h.result hstreams hstop hs
  | encoderReturn ht => exact h.encoderReturn ht
  | stop hs => exact h.stop hs
  | user hs => exact h.user hs

end Custody

/-- **The counts add up in every run**, up to the deletion of the streams. -/
theorem custody {ok : Act → Device → Prop} (h : Run cfg ok s)
    (hok : ∀ a s, ok a s → ReturnsGivenOnce cfg a s) (hst : s.stopPc.stage < 7) :
    Custody cfg s := by
  have hinv : s.stopPc.stage < 7 → Custody cfg s := by
    refine Run.invariant (P := fun s => s.stopPc.stage < 7 → Custody cfg s) h
      (fun _ => .init cfg) fun s a s' hr hi _ ha hs hst' => ?_
    have hst : s.stopPc.stage < 7 := hs.stage_le.trans_lt hst'
    exact (hi hst).step (hok a s ha) ((stages hr).streams hst)
      (fun _ hmem => eq_stopMsg_of_mem hr hmem) hs
  exact hinv hst

end Device

end QCamx
