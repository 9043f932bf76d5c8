import QCamx.Device.Selection

/-!
# How many requests a command gives

An iteration of the request thread selects streams, submits a request with a buffer of each, and
then counts the finite numbers down. A message adds to a finite number and is handled only between
iterations, so that the requests already submitted for a stream and the number left always make up
what the commands ordered.

* `ScheduleInv.step`: what one step keeps of the counts;
* **`scheduled`**: frame numbers, contents and counts at the top of every iteration.
-/

namespace QCamx

namespace Device

variable {cfg : Setup} {s s' : Device}

/-- The sum of the counts that the handled messages order of stream `i`. -/
def ordered (s : Device) (i : ℕ) : ℤ :=
  (s.log.consumed.map fun msg => if msg.mask.testBit i then msg.requestNumber i else 0).sum

/-- The selection of an iteration whose request has been submitted and not yet counted down. -/
def uncounted (s : Device) (i : ℕ) : ℕ :=
  match s.requestPc with
  | .inCall selected _ true | .unlock selected _ | .decrement selected => selected i
  | _ => 0

/-! ## The invariant -/

/-- The commands order counts that are not negative, the HAL accepts every request, and the limit
wait never times out. -/
def Schedules : Act → Device → Prop
  | .user (.requestCapture n), _ => 0 ≤ n
  | .request (.submit false), _ | .request (.limitWake .timeout), _ => False
  | _, _ => True

instance (a : Act) (s : Device) : Decidable (Schedules a s) := by
  unfold Schedules
  split <;> infer_instance

/-- A message that `stop_streams` or `request_capture` has posted. -/
def Posted (cfg : Setup) (msg : CameraRequestMsg) : Prop :=
  msg.messageType = .startStop ∧ msg.stop = 1 ∨
    ∃ n, 0 ≤ n ∧ requestCapture cfg.testCase cfg.config n = some msg

/-- The requests so far, and what is left of the orders. -/
structure ScheduleInv (cfg : Setup) (s : Device) : Prop where
  posted : ∀ msg ∈ s.requestThread.messageQueue, Posted cfg msg
  skip : s.requestThread.skipPattern = runSkipPattern cfg.testCase cfg.config
  iteration : Iteration cfg s.requestThread s.requestPc
  frames : s.log.submitted.map (·.frameNumber) = List.range s.nextAccepted
  contents : ∀ x ∈ s.log.submitted, Contents cfg x
  unlimited : ∀ i, runRequestNumber cfg.testCase cfg.config i = requestNumberUmlimit →
    s.requestThread.requestNumber i = requestNumberUmlimit
  counted : ∀ i < cfg.camera3Streams.length, runRequestNumber cfg.testCase cfg.config i = 0 →
    0 ≤ s.requestThread.requestNumber i ∧
      s.containing cfg i + s.requestThread.requestNumber i = s.ordered i + s.uncounted i

namespace ScheduleInv

theorem init (cfg : Setup) : ScheduleInv cfg cfg.init where
  posted msg hmsg := by cases hmsg
  skip := rfl
  iteration := trivial
  frames := rfl
  contents x hx := by cases hx
  unlimited i hi := hi
  counted i hi h0 := by
    have hnumber : cfg.init.requestThread.requestNumber i = 0 := h0
    have hordered : cfg.init.ordered i = 0 := rfl
    have hcontaining : cfg.init.containing cfg i = 0 := rfl
    have huncounted : cfg.init.uncounted i = 0 := rfl
    omega

theorem of_move (h : ScheduleInv cfg s) (hsel : SelectionInv cfg s')
    (hposted : ∀ msg ∈ s'.requestThread.messageQueue, Posted cfg msg)
    (hnumber : s'.requestThread.requestNumber = s.requestThread.requestNumber)
    (hsub : s'.log.submitted = s.log.submitted) (hconsumed : s'.log.consumed = s.log.consumed)
    (hnext : s'.nextAccepted = s.nextAccepted)
    (huncounted : ∀ i, s'.uncounted i = s.uncounted i) : ScheduleInv cfg s' where
  posted := hposted
  skip := hsel.skip
  iteration := hsel.iteration
  frames := by rw [hsub, hnext]; exact h.frames
  contents := hsel.contents
  unlimited := hsel.unlimited
  counted i hi h0 := by
    have hcounted := h.counted i hi h0
    have hcontaining : s'.containing cfg i = s.containing cfg i := by simp only [containing, hsub]
    have hordered : s'.ordered i = s.ordered i := by simp only [ordered, hconsumed]
    rw [hnumber, hcontaining, hordered, huncounted]
    exact hcounted

theorem change (h : ScheduleInv cfg s) {msg : CameraRequestMsg} {queue : List CameraRequestMsg}
    {s₁ : Device}
    (hs₁ : s₁ = { s with
      requestThread :=
        { s.requestThread with
          messageQueue := queue
          requestNumber :=
            requestChange s.camera3Streams.length msg s.requestThread.requestNumber }
      log := { s.log with consumed := s.log.consumed ++ [msg] } })
    (hsel : SelectionInv cfg s₁) (hq : s.requestThread.messageQueue = msg :: queue)
    (htype : msg.messageType = .requestChange) (hstreams : s.camera3Streams = cfg.camera3Streams) :
    ScheduleInv cfg s₁ := by
  subst hs₁
  have hmsg : Posted cfg msg := h.posted msg (by rw [hq]; exact List.mem_cons_self)
  rcases hmsg with ⟨hstart, -⟩ | ⟨n, hn, hcapture⟩
  · rw [hstart] at htype
    cases htype
  have hspec := (requestCapture_spec hcapture).2
  refine ⟨fun m hm => h.posted m (by rw [hq]; exact List.mem_cons_of_mem _ hm), hsel.skip,
    hsel.iteration, h.frames, hsel.contents, hsel.unlimited, fun i hi h0 => ?_⟩
  obtain ⟨hpos, hcounted⟩ := h.counted i hi h0
  have hne : s.requestThread.requestNumber i ≠ requestNumberUmlimit := by
    rw [requestNumberUmlimit]
    omega
  have hordered : ordered { s with log := { s.log with consumed := s.log.consumed ++ [msg] } } i =
      s.ordered i + if msg.mask.testBit i = true then msg.requestNumber i else 0 := by
    simp [ordered]
  show 0 ≤ requestChange s.camera3Streams.length msg s.requestThread.requestNumber i ∧
    s.containing cfg i + requestChange s.camera3Streams.length msg s.requestThread.requestNumber i
      = ordered { s with log := { s.log with consumed := s.log.consumed ++ [msg] } } i +
        s.uncounted i
  rw [hordered, requestChange, hstreams]
  by_cases hbit : msg.mask.testBit i = true
  · have horder := (hspec i hbit).2
    rw [if_pos ⟨hi, hbit⟩, if_neg hne, if_pos hbit]
    omega
  · rw [if_neg (fun hc => hbit hc.2), if_neg hbit]
    omega

theorem submit (h : ScheduleInv cfg s) {selected : ℕ → ℕ} {buffers : List StreamBuffer}
    {s₁ : Device}
    (hs₁ : s₁ = { s with
      inFlight := s.inFlight ++ buffers.map fun b => (s.requestThread.frameNumber, b)
      requestPc := .inCall selected buffers true
      log := { s.log with
        submitted := s.log.submitted ++ [⟨s.requestThread.frameNumber, buffers, true,
          s.requestThread.requestNumber⟩] } })
    (hsel : SelectionInv cfg s₁) (hpc : s.requestPc = .submit selected buffers) :
    ScheduleInv cfg s₁ := by
  subst hs₁
  have hiteration := h.iteration
  have hframes := h.frames
  have hcounts := h.counted
  simp only [hpc, Iteration] at hiteration
  simp only [nextAccepted, uncounted, hpc] at hframes hcounts
  obtain ⟨hselects, hbuffers⟩ := hiteration
  have hcontains : ∀ i < cfg.camera3Streams.length,
      Contains cfg ⟨s.requestThread.frameNumber, buffers, true, s.requestThread.requestNumber⟩ i ↔
        selected i ≠ 0 := contains_iff_selected hbuffers
  refine ⟨h.posted, h.skip, hsel.iteration, ?_, hsel.contents, h.unlimited, fun i hi h0 => ?_⟩
  · simp only [List.map_append, List.map_singleton, hframes, nextAccepted]
    exact List.range_succ.symm
  · obtain ⟨hpos, hcounted⟩ := hcounts i hi h0
    refine ⟨hpos, ?_⟩
    have hle_one : selected i ≤ 1 := by
      rw [hselects.eq]
      exact selectStreams_le_one _ i
    simp only [containing, ordered, uncounted, List.countP_append, List.countP_singleton,
      decide_eq_true_eq, hcontains i hi] at hcounted ⊢
    split_ifs with hsel <;> omega

theorem decrement (h : ScheduleInv cfg s) {selected : ℕ → ℕ} {s₁ : Device}
    (hs₁ : s₁ = { s with
      requestThread :=
        { s.requestThread with
          requestNumber :=
            reduceRequest s.camera3Streams.length selected s.requestThread.requestNumber }
      requestPc := .loop })
    (hsel : SelectionInv cfg s₁) (hpc : s.requestPc = .decrement selected)
    (hstreams : s.camera3Streams = cfg.camera3Streams) : ScheduleInv cfg s₁ := by
  subst hs₁
  have hiteration := h.iteration
  have hframes := h.frames
  have hcounts := h.counted
  simp only [hpc, Iteration] at hiteration
  simp only [nextAccepted, uncounted, hpc] at hframes hcounts
  refine ⟨h.posted, h.skip, trivial, hframes, h.contents, hsel.unlimited, fun i hi h0 => ?_⟩
  obtain ⟨hpos, hcounted⟩ := hcounts i hi h0
  obtain ⟨hone, hzero⟩ := hiteration i
  show 0 ≤ reduceRequest s.camera3Streams.length selected s.requestThread.requestNumber i ∧
    s.containing cfg i +
      reduceRequest s.camera3Streams.length selected s.requestThread.requestNumber i =
        s.ordered i + (0 : ℕ)
  rw [reduceRequest, hstreams]
  by_cases hleft : 0 < s.requestThread.requestNumber i
  · rw [if_pos ⟨hi, hleft⟩]
    omega
  · have hsel : selected i = 0 := by
      by_contra hne
      have := hzero hne
      omega
    rw [if_neg (fun hc => hleft hc.2)]
    omega

theorem request {a : RequestAct} (h : ScheduleInv cfg s) (hsel : SelectionInv cfg s')
    (hstages : Stages cfg s) (hok : Schedules (.request a) s) (hs : RequestStep cfg s a s') :
    ScheduleInv cfg s' := by
  have hstreams : s.camera3Streams = cfg.camera3Streams := by
    apply hstages.streams
    by_contra hlt
    exact hs.ne_exited (hstages.request (by omega))
  cases hs with
  | change hpc hstop hq htype hfits => exact h.change rfl hsel hq htype hstreams
  | @submit selected buffers accepted hpc hfreed =>
      cases accepted with
      | false => exact hok.elim
      | true => exact h.submit rfl hsel hpc
  | decrement hpc => exact h.decrement rfl hsel hpc hstreams
  | stopMessage hpc hstop hq htype hmsg =>
      have hposted : ∀ m ∈ _, Posted cfg m := fun m hm =>
        h.posted m (by rw [hq]; exact List.mem_cons_of_mem _ hm)
      exact h.of_move hsel hposted rfl rfl rfl rfl (fun _ => rfl)
  | otherMessage hpc hstop hq htype hmsg =>
      have hposted : ∀ m ∈ _, Posted cfg m := fun m hm =>
        h.posted m (by rw [hq]; exact List.mem_cons_of_mem _ hm)
      exact h.of_move hsel hposted rfl rfl rfl (by simp [nextAccepted, hpc])
        (fun _ => by simp [uncounted, hpc])
  | changeOverflow | bufferWait | bufferWakeEmpty | submitFreed | returnOverflow | unlockFreed
  | rejectFreed | rejectUnknown =>
      exact h.of_move hsel h.posted rfl rfl rfl rfl (fun _ => rfl)
  | exit hpc | start hpc | idle hpc | wakeMessage hpc | limitWait hpc | limitPass hpc
  | limitTimeout hpc | limitWake hpc | assembled hpc | skip hpc | getBuffer _ hpc | settings hpc
  | insert hpc | returnAccepted hpc | returnRejected hpc | unlock _ hpc | rejectReturn hpc
  | rejectRemove hpc | rejectAbsent hpc =>
      exact h.of_move hsel h.posted rfl rfl rfl
        (by simp [nextAccepted, hpc, takeSettings, returnBuffer])
        (fun _ => by simp [uncounted, hpc, takeSettings])

theorem of_pc (h : ScheduleInv cfg s) (hsel : SelectionInv cfg s')
    (hposted : ∀ msg ∈ s'.requestThread.messageQueue, Posted cfg msg)
    (hnumber : s'.requestThread.requestNumber = s.requestThread.requestNumber)
    (hframe : s'.requestThread.frameNumber = s.requestThread.frameNumber)
    (hpc : s'.requestPc = s.requestPc) (hsub : s'.log.submitted = s.log.submitted)
    (hconsumed : s'.log.consumed = s.log.consumed) : ScheduleInv cfg s' :=
  h.of_move hsel hposted hnumber hsub hconsumed (nextAccepted_congr hpc hframe)
    fun i => by simp only [uncounted, hpc]

theorem step {a : Act} (h : ScheduleInv cfg s) (hsel : SelectionInv cfg s')
    (hstages : Stages cfg s) (hok : Schedules a s) (hs : Step cfg s a s') :
    ScheduleInv cfg s' := by
  cases hs with
  | request hs => exact h.request hsel hstages hok hs
  | hal hs =>
      have hf := hs.frame
      have hthread := hf.requestThread
      exact h.of_pc hsel (by rw [hthread]; exact h.posted) (by rw [hthread]) (by rw [hthread])
        hf.requestPc hf.submitted hf.consumed
  | result hs =>
      have hf := hs.frame
      have hthread := hf.requestThread
      exact h.of_pc hsel (by rw [hthread]; exact h.posted) (by rw [hthread]) (by rw [hthread])
        hf.requestPc hf.submitted hf.consumed
  | encoderReturn ht => exact h.of_pc hsel h.posted rfl rfl rfl rfl rfl
  | stop hs =>
      have hf := hs.frame
      refine h.of_pc hsel ?_ hf.requestNumber hf.frameNumber hf.requestPc (by rw [hf.log])
        (by rw [hf.log])
      cases hs with
      | postRequest hpc =>
          intro msg hmsg
          rcases List.mem_append.mp hmsg with hmsg | hmsg
          · exact h.posted msg hmsg
          · obtain rfl := List.mem_singleton.mp hmsg
            exact Or.inl ⟨rfl, rfl⟩
      | _ => exact h.posted
  | user hs =>
      have hf := hs.frame
      refine h.of_pc hsel ?_ hf.requestNumber hf.frameNumber hf.requestPc (by rw [hf.log])
        (by rw [hf.log])
      cases hs with
      | requestCapture hpc hcapture hcase =>
          intro msg hmsg
          rcases List.mem_append.mp hmsg with hmsg | hmsg
          · exact h.posted msg hmsg
          · obtain rfl := List.mem_singleton.mp hmsg
            exact Or.inr ⟨_, hok, hcapture⟩
      | _ => exact h.posted

end ScheduleInv

theorem scheduleInv (h : Run cfg Schedules s) : ScheduleInv cfg s :=
  h.invariant (.init cfg) fun _ _ _ hr hi _ hok hs =>
    hi.step ((selectionInv hr).step (stages hr) (numbering hr).streams_le hs) (stages hr) hok hs

/-- **The schedule of the requests**, at the top of every iteration. -/
structure Scheduled (cfg : Setup) (s : Device) : Prop where
  /-- The frame numbers are `0, 1, 2, …`. -/
  frames : s.log.submitted.map (·.frameNumber) = List.range s.requestThread.frameNumber
  contents : ∀ x ∈ s.log.submitted, Contents cfg x
  unlimited : ∀ i, runRequestNumber cfg.testCase cfg.config i = requestNumberUmlimit →
    s.requestThread.requestNumber i = requestNumberUmlimit
  /-- What was ordered is what was submitted and what is left. -/
  counted : ∀ i < cfg.camera3Streams.length, runRequestNumber cfg.testCase cfg.config i = 0 →
    s.containing cfg i + s.requestThread.requestNumber i = s.ordered i

theorem scheduled (h : Run cfg Schedules s) (hpc : s.requestPc = .loop) : Scheduled cfg s := by
  obtain ⟨-, -, -, hframes, hcontents, hunlimited, hcounted⟩ := scheduleInv h
  simp only [nextAccepted, uncounted, hpc] at hframes hcounted
  refine ⟨hframes, hcontents, hunlimited, fun i hi h0 => ?_⟩
  have := (hcounted i hi h0).2
  omega

theorem RequestStep.requestPc_of_iterate (hs : RequestStep cfg s .iterate s') :
    s.requestPc = .loop := by
  cases hs with
  | getBuffer ha => rcases ha with ⟨ha, -⟩ | ⟨w, ha, -⟩ <;> cases ha
  | _ => assumption

/-- A preview-snapshot case with a preview stream of two buffers and a snapshot stream of one. -/
def snapshotSetup : Setup where
  testCase := .previewSnapshot
  config := {}
  camera3Streams := [1, 2]
  allocated i := List.range (2 - i)
  nodup_streams := by decide
  length_streams := Or.inr rfl
  nodup_allocated _ := List.nodup_range

/-- An iteration of `snapshotSetup` whose request is accepted. -/
def acceptSnapshot : List Act :=
  [.iterate, .limit, .assemble, .assemble, .assemble, .settings, .insert, .submit true, .return,
    .unlock, .decrement].map .request

theorem scheduled_one_snapshot :
    ∃ s, Run snapshotSetup Schedules s ∧ s.log.submitted.length = 2 ∧
      s.containing snapshotSetup 1 = 1 ∧ Scheduled snapshotSetup s := by
  obtain ⟨s, hs, hnext, hlength, hone⟩ : ∃ s, Run snapshotSetup Schedules s ∧
      (s.request snapshotSetup .iterate).isSome = true ∧ s.log.submitted.length = 2 ∧
      s.containing snapshotSetup 1 = 1 :=
    Run.exists_of_exec ([.user (.requestCapture 1), .request .iterate] ++ acceptSnapshot ++
      acceptSnapshot) (by decide +kernel)
  obtain ⟨s', hs'⟩ := Option.isSome_iff_exists.mp hnext
  exact ⟨s, hs, hlength, hone, scheduled hs (RequestStep.of_eq hs').requestPc_of_iterate⟩

end Device

end QCamx
