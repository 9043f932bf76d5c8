import QCamx.Device.Numbering
import QCamx.Device.Stages

/-!
# Which streams a request contains

An iteration of the request thread selects streams by their `request_number` and skip pattern and
submits a request with a buffer of each. Whatever commands come and whatever the HAL answers, the
request then holds just those streams, and a frame number is submitted once.

* `requestCapture_spec`, `exists_unlimited`: what the six cases set up and order;
* `chosen`: the streams of a request under construction;
* `SelectionInv.step`: the selection on its way through an iteration;
* **`selectionInv`**: the contents and the order of the requests in every run.
-/

namespace QCamx

/-! ## What the cases order -/

theorem requestCapture_spec {tc : TestCase} {c : QCamxConfig} {n : ℤ} {msg : CameraRequestMsg}
    (h : requestCapture tc c n = some msg) :
    msg.messageType = .requestChange ∧ ∀ i, msg.mask.testBit i = true →
      runRequestNumber tc c i ≠ requestNumberUmlimit ∧ msg.requestNumber i = n := by
  have hbit : ∀ k i, (1 <<< k).testBit i = true → i = k := by
    intro k i hi
    rw [Nat.one_shiftLeft, Nat.testBit_two_pow] at hi
    exact (of_decide_eq_true hi).symm
  cases tc with
  | previewSnapshot =>
      simp only [requestCapture] at h
      split_ifs at h with hformat
      obtain rfl := Option.some.inj h
      refine ⟨rfl, fun i hi => ?_⟩
      obtain rfl := hbit 1 i hi
      simp [runRequestNumber, hformat, requestNumberUmlimit]
  | hal3TestVideo =>
      simp only [requestCapture] at h
      split_ifs at h with hraw
      · obtain rfl := Option.some.inj h
        refine ⟨rfl, fun i hi => ?_⟩
        rw [Nat.testBit_or, Bool.or_eq_true] at hi
        rcases hi with hi | hi
        · obtain rfl := hbit 2 i hi
          simp [runRequestNumber, requestNumberUmlimit]
        · obtain rfl := hbit 3 i hi
          simp [runRequestNumber, requestNumberUmlimit]
      · obtain rfl := Option.some.inj h
        refine ⟨rfl, fun i hi => ?_⟩
        obtain rfl := hbit 2 i hi
        simp [runRequestNumber, requestNumberUmlimit]
  | previewOnly | previewVideo | videoOnly | hal3TestDepth => cases h

/-- Every case has a stream without a limit that is in every frame. -/
theorem exists_unlimited (tc : TestCase) (c : QCamxConfig) :
    ∃ i < (initStreams tc c).cameraStreams.length,
      runRequestNumber tc c i = requestNumberUmlimit ∧ runSkipPattern tc c i = 1 := by
  cases tc with
  | previewOnly | videoOnly | previewSnapshot =>
      exact ⟨0, by simp [initStreams, initPreviewStream, initVideoOnlyStream, initSnapshotStreams],
        by simp [runRequestNumber], rfl⟩
  | previewVideo =>
      exact ⟨1, by simp [initStreams, initVideoStream], by simp [runRequestNumber], rfl⟩
  | hal3TestVideo =>
      refine ⟨1, ?_, by simp [runRequestNumber], rfl⟩
      simp only [initStreams, initVideoStreams, hal3TestVideoStreams]
      split_ifs <;> simp
  | hal3TestDepth =>
      refine ⟨0, ?_, ?_, rfl⟩
      · simp only [initStreams, initDepthStream]
        split_ifs <;> simp
      · simp only [runRequestNumber]
        split_ifs <;> simp

namespace Device

variable {cfg : Setup} {s s' : Device}

/-! ## The streams of a request -/

/-- The selected streams among the first `n`. -/
def chosen (streams : List StreamPtr) (selected : ℕ → ℕ) (n : ℕ) : List StreamPtr :=
  (List.range n).filterMap fun i => if selected i = 0 then none else streams[i]?

theorem chosen_succ (streams : List StreamPtr) (selected : ℕ → ℕ) (n : ℕ) :
    chosen streams selected (n + 1) =
      chosen streams selected n ++ (if selected n = 0 then none else streams[n]?).toList := by
  rw [chosen, List.range_succ, List.filterMap_append]
  cases h : (if selected n = 0 then none else streams[n]?) <;> simp [chosen, h]

theorem mem_chosen {streams : List StreamPtr} (hnodup : streams.Nodup) {selected : ℕ → ℕ} {i : ℕ}
    {p : StreamPtr} (hi : streams[i]? = some p) :
    p ∈ chosen streams selected streams.length ↔ selected i ≠ 0 := by
  obtain ⟨hlt, hp⟩ := List.getElem?_eq_some_iff.mp hi
  rw [chosen, List.mem_filterMap]
  constructor
  · rintro ⟨j, hj, he⟩
    split_ifs at he with hsel
    obtain ⟨hjlt, hjp⟩ := List.getElem?_eq_some_iff.mp he
    have hij : i = j := (hnodup.getElem_inj_iff).mp (hp.trans hjp.symm)
    rw [hij]
    exact hsel
  · intro hsel
    exact ⟨i, List.mem_range.mpr hlt, by rw [if_neg hsel, hi]⟩

/-- A request contains stream `i`. -/
def Contains (cfg : Setup) (x : Submission) (i : ℕ) : Prop :=
  ∃ p ∈ cfg.camera3Streams[i]?, p ∈ x.buffers.map (·.stream)

instance (cfg : Setup) (x : Submission) (i : ℕ) : Decidable (Contains cfg x i) :=
  decidable_of_iff ((cfg.camera3Streams[i]?).any fun p => p ∈ x.buffers.map (·.stream))
    ((Option.any_eq_true _ _).trans (by simp [Contains]))

/-- The number of submitted requests that contain stream `i`. -/
def containing (cfg : Setup) (s : Device) (i : ℕ) : ℕ :=
  s.log.submitted.countP fun x => Contains cfg x i

/-- What a request contains. -/
structure Contents (cfg : Setup) (x : Submission) : Prop where
  contains_iff : ∀ i < cfg.camera3Streams.length, Contains cfg x i ↔
    x.requestNumber i ≠ 0 ∧ runSkipPattern cfg.testCase cfg.config i ∣ x.frameNumber
  nonempty : x.buffers ≠ []

/-- A message that `stop_streams` or `request_capture` has posted, for any count. -/
def Issued (cfg : Setup) (msg : CameraRequestMsg) : Prop :=
  msg.messageType = .startStop ∧ msg.stop = 1 ∨
    ∃ n, requestCapture cfg.testCase cfg.config n = some msg

/-- The selection at the top of the iteration. -/
structure Selects (cfg : Setup) (t : CameraThreadData (List CameraRequestMsg))
    (selected : ℕ → ℕ) : Prop where
  eq : selected = selectStreams t
  streams : cfg.camera3Streams ≠ []

/-- What an iteration knows about its selection. -/
def Iteration (cfg : Setup) (t : CameraThreadData (List CameraRequestMsg)) : RequestPc → Prop
  | .limit selected | .waitLimit selected => Selects cfg t selected
  | .assemble selected i buffers =>
      Selects cfg t selected ∧ i ≤ cfg.camera3Streams.length ∧
        buffers.map (·.stream) = chosen cfg.camera3Streams selected i
  | .settings selected buffers | .insert selected buffers _ | .submit selected buffers =>
      Selects cfg t selected ∧
        buffers.map (·.stream) = chosen cfg.camera3Streams selected cfg.camera3Streams.length
  | .inCall selected _ true | .unlock selected _ | .decrement selected =>
      ∀ i, selected i ≤ 1 ∧ (selected i ≠ 0 → t.requestNumber i ≠ 0)
  | _ => True

theorem selectStreams_ne_zero {Queue : Type} {t : CameraThreadData Queue} {i : ℕ} :
    selectStreams t i ≠ 0 ↔
      i < maxStream ∧ t.requestNumber i ≠ 0 ∧ t.frameNumber % t.skipPattern i = 0 := by
  unfold selectStreams
  split_ifs with h <;> simp [h]

theorem selectStreams_le_one {Queue : Type} (t : CameraThreadData Queue) (i : ℕ) :
    selectStreams t i ≤ 1 := by
  unfold selectStreams
  split_ifs <;> omega

theorem contains_iff_selected {selected : ℕ → ℕ} {buffers : List StreamBuffer} {frame : ℕ}
    {accepted : Bool} {requestNumber : ℕ → ℤ}
    (hbuffers : buffers.map (·.stream) =
      chosen cfg.camera3Streams selected cfg.camera3Streams.length) (i : ℕ)
    (hi : i < cfg.camera3Streams.length) :
    Contains cfg ⟨frame, buffers, accepted, requestNumber⟩ i ↔ selected i ≠ 0 := by
  have hget := List.getElem?_eq_getElem hi
  simp only [Contains, hbuffers, hget, Option.mem_def, Option.some.injEq, exists_eq_left']
  exact mem_chosen cfg.nodup_streams hget

theorem contents_of_selects {t : CameraThreadData (List CameraRequestMsg)} {selected : ℕ → ℕ}
    {buffers : List StreamBuffer} {accepted : Bool} (h : Selects cfg t selected)
    (hskip : t.skipPattern = runSkipPattern cfg.testCase cfg.config)
    (hbuffers : buffers.map (·.stream) =
      chosen cfg.camera3Streams selected cfg.camera3Streams.length)
    (hunlimited : ∀ i, runRequestNumber cfg.testCase cfg.config i = requestNumberUmlimit →
      t.requestNumber i = requestNumberUmlimit)
    (hle : cfg.camera3Streams.length ≤ maxStream) :
    Contents cfg ⟨t.frameNumber, buffers, accepted, t.requestNumber⟩ := by
  have hiff : ∀ i < cfg.camera3Streams.length,
      Contains cfg ⟨t.frameNumber, buffers, accepted, t.requestNumber⟩ i ↔
        t.requestNumber i ≠ 0 ∧ runSkipPattern cfg.testCase cfg.config i ∣ t.frameNumber := by
    intro i hi
    have hlt : i < maxStream := by omega
    rw [contains_iff_selected hbuffers i hi, h.eq, selectStreams_ne_zero, hskip,
      Nat.dvd_iff_mod_eq_zero]
    exact and_iff_right hlt
  refine ⟨hiff, ?_⟩
  -- the stream without a limit is in every request
  obtain ⟨i, hi, hnumber, hone⟩ := exists_unlimited cfg.testCase cfg.config
  have hlength := cfg.length_streams.resolve_left h.streams
  have hcontains := (hiff i (by omega)).mpr
    ⟨by rw [hunlimited i hnumber, requestNumberUmlimit]; decide, by rw [hone]; exact one_dvd _⟩
  obtain ⟨p, -, hp⟩ := hcontains
  rintro rfl
  cases hp

theorem Iteration.congr {t t' : CameraThreadData (List CameraRequestMsg)} {pc : RequestPc}
    (h : Iteration cfg t pc) (hnumber : t'.requestNumber = t.requestNumber)
    (hskip : t'.skipPattern = t.skipPattern) (hframe : t'.frameNumber = t.frameNumber) :
    Iteration cfg t' pc := by
  have hselect : selectStreams t' = selectStreams t := by
    funext i
    simp only [selectStreams, hnumber, hskip, hframe]
  have hselects : ∀ {selected}, Selects cfg t selected → Selects cfg t' selected :=
    fun hs => ⟨hs.eq.trans hselect.symm, hs.streams⟩
  unfold Iteration at h ⊢
  split at h
  · exact hselects h
  · exact hselects h
  · exact ⟨hselects h.1, h.2⟩
  · exact ⟨hselects h.1, h.2⟩
  · exact ⟨hselects h.1, h.2⟩
  · exact ⟨hselects h.1, h.2⟩
  · rw [hnumber]; exact h
  · rw [hnumber]; exact h
  · rw [hnumber]; exact h
  · trivial

/-! ## The invariant -/

/-- The first frame number that has not been submitted, while the thread may submit. -/
def nextSubmitted (s : Device) : Option ℕ :=
  match s.requestPc with
  | .inCall .. | .reject .. => some (s.requestThread.frameNumber + 1)
  | .exited => none
  | _ => some s.requestThread.frameNumber

/-- The requests so far, and the one under construction. -/
structure SelectionInv (cfg : Setup) (s : Device) : Prop where
  issued : ∀ msg ∈ s.requestThread.messageQueue, Issued cfg msg
  skip : s.requestThread.skipPattern = runSkipPattern cfg.testCase cfg.config
  iteration : Iteration cfg s.requestThread s.requestPc
  sorted : (s.log.submitted.map (·.frameNumber)).Pairwise (· < ·)
  below : ∀ n, s.nextSubmitted = some n → ∀ x ∈ s.log.submitted, x.frameNumber < n
  contents : ∀ x ∈ s.log.submitted, Contents cfg x
  unlimited : ∀ i, runRequestNumber cfg.testCase cfg.config i = requestNumberUmlimit →
    s.requestThread.requestNumber i = requestNumberUmlimit

theorem nextSubmitted_congr (hpc : s'.requestPc = s.requestPc)
    (hframe : s'.requestThread.frameNumber = s.requestThread.frameNumber) :
    s'.nextSubmitted = s.nextSubmitted := by
  simp only [nextSubmitted, hpc, hframe]

namespace SelectionInv

theorem init (cfg : Setup) : SelectionInv cfg cfg.init where
  issued msg hmsg := by cases hmsg
  skip := rfl
  iteration := trivial
  sorted := List.Pairwise.nil
  below n hn x hx := by cases hx
  contents x hx := by cases hx
  unlimited i hi := hi

theorem of_move (h : SelectionInv cfg s)
    (hissued : ∀ msg ∈ s'.requestThread.messageQueue, Issued cfg msg)
    (hnumber : s'.requestThread.requestNumber = s.requestThread.requestNumber)
    (hskip : s'.requestThread.skipPattern = s.requestThread.skipPattern)
    (hsub : s'.log.submitted = s.log.submitted)
    (hnext : ∀ n, s'.nextSubmitted = some n → s.nextSubmitted = some n)
    (hiteration : Iteration cfg s'.requestThread s'.requestPc) : SelectionInv cfg s' where
  issued := hissued
  skip := hskip.trans h.skip
  iteration := hiteration
  sorted := by rw [hsub]; exact h.sorted
  below n hn := by rw [hsub]; exact h.below n (hnext n hn)
  contents := by rw [hsub]; exact h.contents
  unlimited := by rw [hnumber]; exact h.unlimited

theorem change (h : SelectionInv cfg s) {msg : CameraRequestMsg} {queue : List CameraRequestMsg}
    (hpc : s.requestPc = .loop) (hq : s.requestThread.messageQueue = msg :: queue)
    (htype : msg.messageType = .requestChange) :
    SelectionInv cfg
      { s with
        requestThread :=
          { s.requestThread with
            messageQueue := queue
            requestNumber :=
              requestChange s.camera3Streams.length msg s.requestThread.requestNumber }
        log := { s.log with consumed := s.log.consumed ++ [msg] } } := by
  have hmsg : Issued cfg msg := h.issued msg (by rw [hq]; exact List.mem_cons_self)
  rcases hmsg with ⟨hstart, -⟩ | ⟨n, hcapture⟩
  · rw [hstart] at htype
    cases htype
  have hspec := (requestCapture_spec hcapture).2
  refine ⟨fun m hm => h.issued m (by rw [hq]; exact List.mem_cons_of_mem _ hm), h.skip, ?_,
    h.sorted, h.below, h.contents, fun i hi => ?_⟩
  · simp only [hpc]
    trivial
  · have hbit : ¬ msg.mask.testBit i = true := fun hb => (hspec i hb).1 hi
    simp only [requestChange]
    rw [if_neg (fun hc => hbit hc.2)]
    exact h.unlimited i hi

theorem submit (h : SelectionInv cfg s) {selected : ℕ → ℕ} {buffers : List StreamBuffer}
    {accepted : Bool} (hpc : s.requestPc = .submit selected buffers)
    (hstreams : s.camera3Streams = cfg.camera3Streams) (hle : s.camera3Streams.length ≤ maxStream)
    (inFlight : List (ℕ × StreamBuffer)) :
    SelectionInv cfg
      { s with
        inFlight := inFlight
        requestPc := .inCall selected buffers accepted
        log := { s.log with
          submitted := s.log.submitted ++ [⟨s.requestThread.frameNumber, buffers, accepted,
            s.requestThread.requestNumber⟩] } } := by
  have hiteration := h.iteration
  have hbelow := h.below
  simp only [hpc, Iteration] at hiteration
  simp only [nextSubmitted, hpc, Option.some.injEq, forall_eq'] at hbelow
  obtain ⟨hselects, hbuffers⟩ := hiteration
  rw [hstreams] at hle
  refine ⟨h.issued, h.skip, ?_, ?_, fun n hn x hx => ?_, fun x hx => ?_, h.unlimited⟩
  · cases accepted with
    | false => trivial
    | true =>
        intro i
        rw [hselects.eq]
        exact ⟨selectStreams_le_one _ i, fun hi => (selectStreams_ne_zero.mp hi).2.1⟩
  · rw [List.map_append, List.pairwise_append]
    refine ⟨h.sorted, List.pairwise_singleton _ _, fun a ha b hb => ?_⟩
    obtain ⟨x, hx, rfl⟩ := List.mem_map.mp ha
    obtain rfl := List.mem_singleton.mp hb
    exact hbelow x hx
  · obtain rfl := Option.some.inj hn
    rcases List.mem_append.mp hx with hx | hx
    · have := hbelow x hx
      show x.frameNumber < s.requestThread.frameNumber + 1
      omega
    · obtain rfl := List.mem_singleton.mp hx
      exact Nat.lt_succ_self _
  · rcases List.mem_append.mp hx with hx | hx
    · exact h.contents x hx
    · obtain rfl := List.mem_singleton.mp hx
      exact contents_of_selects hselects h.skip hbuffers h.unlimited hle

theorem decrement (h : SelectionInv cfg s) {selected : ℕ → ℕ}
    (hpc : s.requestPc = .decrement selected) :
    SelectionInv cfg
      { s with
        requestThread :=
          { s.requestThread with
            requestNumber :=
              reduceRequest s.camera3Streams.length selected s.requestThread.requestNumber }
        requestPc := .loop } := by
  have hbelow := h.below
  simp only [nextSubmitted, hpc] at hbelow
  refine ⟨h.issued, h.skip, trivial, h.sorted, hbelow, h.contents, fun i hi => ?_⟩
  have hunlimited := h.unlimited i hi
  have hneg : ¬ 0 < s.requestThread.requestNumber i := by
    rw [hunlimited, requestNumberUmlimit]
    decide
  simp only [reduceRequest]
  rw [if_neg (fun hc => hneg hc.2)]
  exact hunlimited

theorem request {a : RequestAct} (h : SelectionInv cfg s) (hstages : Stages cfg s)
    (hle : s.camera3Streams.length ≤ maxStream) (hs : RequestStep cfg s a s') :
    SelectionInv cfg s' := by
  have hstreams : s.camera3Streams = cfg.camera3Streams := by
    apply hstages.streams
    by_contra hlt
    exact hs.ne_exited (hstages.request (by omega))
  have hiteration := h.iteration
  cases hs with
  | change hpc hstop hq htype hfits => exact h.change hpc hq htype
  | otherMessage hpc hstop hq htype hmsg =>
      -- nobody posts such a message
      rcases h.issued _ (by rw [hq]; exact List.mem_cons_self) with ⟨-, hone⟩ | ⟨n, hcapture⟩
      · exact absurd hone hmsg
      · rw [(requestCapture_spec hcapture).1] at htype
        cases htype
  | submit hpc hfreed => exact h.submit hpc hstreams hle _
  | decrement hpc => exact h.decrement hpc
  | stopMessage hpc hstop hq htype hmsg =>
      have hissued : ∀ m ∈ _, Issued cfg m := fun m hm =>
        h.issued m (by rw [hq]; exact List.mem_cons_of_mem _ hm)
      refine h.of_move hissued rfl rfl rfl (fun n hn => hn) ?_
      simp only [hpc]
      trivial
  | start hpc hstop hq hreq =>
      refine h.of_move h.issued rfl rfl rfl (by simp [nextSubmitted, hpc]) ⟨rfl, ?_⟩
      intro hnil
      simp [hasRequest, hstreams, hnil] at hreq
  | @assembled selected i buffers hpc hi =>
      simp only [hpc, Iteration] at hiteration
      obtain ⟨hselects, hbound, hbuffers⟩ := hiteration
      rw [hstreams, List.getElem?_eq_none_iff] at hi
      obtain rfl : i = cfg.camera3Streams.length := by omega
      exact h.of_move h.issued rfl rfl rfl (by simp [nextSubmitted, hpc]) ⟨hselects, hbuffers⟩
  | skip hpc hi hsel =>
      simp only [hpc, Iteration] at hiteration
      obtain ⟨hselects, hbound, hbuffers⟩ := hiteration
      rw [hstreams] at hi
      have hlt := (List.getElem?_eq_some_iff.mp hi).1
      refine h.of_move h.issued rfl rfl rfl (by simp [nextSubmitted, hpc]) ⟨hselects, hlt, ?_⟩
      rw [chosen_succ, if_pos hsel, hbuffers]
      exact (List.append_nil _).symm
  | getBuffer ha hpc hi hsel hfree =>
      simp only [hpc, Iteration] at hiteration
      obtain ⟨hselects, hbound, hbuffers⟩ := hiteration
      rw [hstreams] at hi
      have hlt := (List.getElem?_eq_some_iff.mp hi).1
      refine h.of_move h.issued rfl rfl rfl (by simp [nextSubmitted, hpc]) ⟨hselects, hlt, ?_⟩
      rw [chosen_succ, if_neg hsel, hi, List.map_append, hbuffers]
      rfl
  | unlock setting hpc hfreed hset =>
      simp only [hpc, Iteration] at hiteration
      exact h.of_move h.issued rfl rfl rfl (by simp [nextSubmitted, hpc]) hiteration
  | returnAccepted hpc hfits =>
      simp only [hpc, Iteration] at hiteration
      exact h.of_move h.issued rfl rfl rfl (by simp [nextSubmitted, hpc]) hiteration
  | changeOverflow | bufferWait | bufferWakeEmpty | submitFreed | returnOverflow | unlockFreed
  | rejectFreed | rejectUnknown =>
      exact h.of_move h.issued rfl rfl rfl (fun n hn => hn) hiteration
  | limitWait hpc | settings hpc | insert hpc =>
      simp only [hpc, Iteration] at hiteration
      exact h.of_move h.issued rfl rfl rfl (by simp [nextSubmitted, hpc, takeSettings]) hiteration
  | limitPass hpc | limitWake hpc =>
      simp only [hpc, Iteration] at hiteration
      exact h.of_move h.issued rfl rfl rfl (by simp [nextSubmitted, hpc])
        ⟨hiteration, Nat.zero_le _, rfl⟩
  | exit hpc | idle hpc | wakeMessage hpc | limitTimeout hpc | returnRejected hpc
  | rejectReturn hpc | rejectRemove hpc | rejectAbsent hpc =>
      exact h.of_move h.issued rfl rfl rfl (by simp [nextSubmitted, hpc, returnBuffer]) trivial

theorem of_pc (h : SelectionInv cfg s)
    (hissued : ∀ msg ∈ s'.requestThread.messageQueue, Issued cfg msg)
    (hnumber : s'.requestThread.requestNumber = s.requestThread.requestNumber)
    (hskip : s'.requestThread.skipPattern = s.requestThread.skipPattern)
    (hframe : s'.requestThread.frameNumber = s.requestThread.frameNumber)
    (hpc : s'.requestPc = s.requestPc) (hsub : s'.log.submitted = s.log.submitted) :
    SelectionInv cfg s' := by
  refine h.of_move hissued hnumber hskip hsub
    (fun n hn => (nextSubmitted_congr hpc hframe).symm.trans hn) ?_
  rw [hpc]
  exact h.iteration.congr hnumber hskip hframe

theorem step {a : Act} (h : SelectionInv cfg s) (hstages : Stages cfg s)
    (hle : s.camera3Streams.length ≤ maxStream) (hs : Step cfg s a s') : SelectionInv cfg s' := by
  cases hs with
  | request hs => exact h.request hstages hle hs
  | hal hs =>
      have hf := hs.frame
      have hthread := hf.requestThread
      exact h.of_pc (by rw [hthread]; exact h.issued) (by rw [hthread]) (by rw [hthread])
        (by rw [hthread]) hf.requestPc hf.submitted
  | result hs =>
      have hf := hs.frame
      have hthread := hf.requestThread
      exact h.of_pc (by rw [hthread]; exact h.issued) (by rw [hthread]) (by rw [hthread])
        (by rw [hthread]) hf.requestPc hf.submitted
  | encoderReturn ht => exact h.of_pc h.issued rfl rfl rfl rfl rfl
  | stop hs =>
      have hf := hs.frame
      refine h.of_pc ?_ hf.requestNumber hf.skipPattern hf.frameNumber hf.requestPc
        (by rw [hf.log])
      cases hs with
      | postRequest hpc =>
          intro msg hmsg
          rcases List.mem_append.mp hmsg with hmsg | hmsg
          · exact h.issued msg hmsg
          · obtain rfl := List.mem_singleton.mp hmsg
            exact Or.inl ⟨rfl, rfl⟩
      | _ => exact h.issued
  | user hs =>
      have hf := hs.frame
      refine h.of_pc ?_ hf.requestNumber hf.skipPattern hf.frameNumber hf.requestPc
        (by rw [hf.log])
      cases hs with
      | requestCapture hpc hcapture hcase =>
          intro msg hmsg
          rcases List.mem_append.mp hmsg with hmsg | hmsg
          · exact h.issued msg hmsg
          · obtain rfl := List.mem_singleton.mp hmsg
            exact Or.inr ⟨_, hcapture⟩
      | _ => exact h.issued

end SelectionInv

/-- **The contents and the order of the requests**, in every run. -/
theorem selectionInv {ok : Act → Device → Prop} (h : Run cfg ok s) : SelectionInv cfg s :=
  h.invariant (.init cfg) fun _ _ _ hr hi _ _ hs =>
    hi.step (stages hr) (numbering hr).streams_le hs

end Device

end QCamx
