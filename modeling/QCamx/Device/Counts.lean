import QCamx.Console.Step
import QCamx.Device.Schedule

/-!
# Finite numbers that stay finite

The count of a snapshot command is any number that `sscanf` reads. The request thread adds it to the
number of its streams, where `-1` stands for no limit, and counts down a number only while it is
positive.

* `KeepsFinite`: the messages that leave a finite number between `0` and the greatest `int`;
* `CountsInv.step`: what one step keeps under that condition;
* **`countsKept`**: no number of a run becomes negative, and no more requests are submitted than
  the positive counts order;
* `not_kept_of_not_keepsFinite`: any other message breaks this at once.
-/

namespace QCamx

open Guarded

namespace Device

variable {cfg : Setup} {i : ℕ} {s s' : Device}

/-! ## The property and its condition -/

/-- The sum of the positive counts that the handled messages order of stream `i`. -/
def positiveOrdered (s : Device) (i : ℕ) : ℤ :=
  (s.log.consumed.map fun msg =>
    if msg.mask.testBit i then max 0 (msg.requestNumber i) else 0).sum

/-- Stream `i` starts with a finite number. -/
def StartsFinite (cfg : Setup) (i : ℕ) : Prop :=
  i < cfg.camera3Streams.length ∧ runRequestNumber cfg.testCase cfg.config i = 0

/-- The number of stream `i` is finite, and its requests are no more than were ordered. -/
def CountsKept (cfg : Setup) (s : Device) (i : ℕ) : Prop :=
  0 ≤ s.requestThread.requestNumber i ∧ (s.containing cfg i : ℤ) ≤ s.positiveOrdered i

/-- The message that an iteration finds in the queue leaves the finite numbers of its streams
between `0` and the greatest `int`. -/
def KeepsFinite (cfg : Setup) : Act → Device → Prop
  | .request .iterate, s =>
      ∀ msg ∈ s.requestThread.messageQueue.head?, msg.messageType = .requestChange →
        ∀ i < cfg.camera3Streams.length, runRequestNumber cfg.testCase cfg.config i = 0 →
          msg.mask.testBit i = true →
            0 ≤ s.requestThread.requestNumber i + msg.requestNumber i ∧
              s.requestThread.requestNumber i + msg.requestNumber i < 2 ^ 31
  | _, _ => True

instance (a : Act) (s : Device) : Decidable (KeepsFinite cfg a s) := by
  unfold KeepsFinite
  split <;> infer_instance

/-! ## The invariant -/

/-- The HAL has refused the last request, or the thread has ended: no number is counted down any
more. -/
def Refused : RequestPc → Prop
  | .inCall _ _ false | .reject _ | .exited => True
  | _ => False

/-- The requests for stream `i`, and what is left of its orders. -/
structure CountsInv (cfg : Setup) (i : ℕ) (s : Device) : Prop where
  nonneg : 0 ≤ s.requestThread.requestNumber i
  submitted : (s.containing cfg i : ℤ) ≤ s.positiveOrdered i
  left : ¬ Refused s.requestPc →
    s.containing cfg i + s.requestThread.requestNumber i ≤ s.positiveOrdered i + s.uncounted i

namespace CountsInv

theorem init (hi : StartsFinite cfg i) : CountsInv cfg i cfg.init where
  nonneg := hi.2.ge
  submitted := le_rfl
  left _ := by
    have hnumber : cfg.init.requestThread.requestNumber i = 0 := hi.2
    have hordered : cfg.init.positiveOrdered i = 0 := rfl
    have hcontaining : cfg.init.containing cfg i = 0 := rfl
    omega

theorem of_move (h : CountsInv cfg i s)
    (hnumber : s'.requestThread.requestNumber = s.requestThread.requestNumber)
    (hsub : s'.log.submitted = s.log.submitted) (hconsumed : s'.log.consumed = s.log.consumed)
    (hpc : ¬ Refused s'.requestPc → ¬ Refused s.requestPc ∧ s'.uncounted i = s.uncounted i) :
    CountsInv cfg i s' := by
  have hcontaining : s'.containing cfg i = s.containing cfg i := by simp only [containing, hsub]
  have hordered : s'.positiveOrdered i = s.positiveOrdered i := by
    simp only [positiveOrdered, hconsumed]
  refine ⟨?_, ?_, fun hrefused => ?_⟩
  · rw [hnumber]
    exact h.nonneg
  · rw [hcontaining, hordered]
    exact h.submitted
  · obtain ⟨hbefore, huncounted⟩ := hpc hrefused
    rw [hcontaining, hordered, hnumber, huncounted]
    exact h.left hbefore

theorem change (h : CountsInv cfg i s) (hi : StartsFinite cfg i) {msg : CameraRequestMsg}
    {queue : List CameraRequestMsg} (hpc : s.requestPc = .loop)
    (hq : s.requestThread.messageQueue = msg :: queue) (htype : msg.messageType = .requestChange)
    (hstreams : s.camera3Streams = cfg.camera3Streams)
    (hok : KeepsFinite cfg (.request .iterate) s) :
    CountsInv cfg i
      { s with
        requestThread :=
          { s.requestThread with
            messageQueue := queue
            requestNumber :=
              requestChange s.camera3Streams.length msg s.requestThread.requestNumber }
        log := { s.log with consumed := s.log.consumed ++ [msg] } } := by
  have hnonneg := h.nonneg
  have hleft := h.left (by rw [hpc]; exact id)
  have huncounted : s.uncounted i = 0 := by simp only [uncounted, hpc]
  have hordered :
      positiveOrdered { s with log := { s.log with consumed := s.log.consumed ++ [msg] } } i =
        s.positiveOrdered i +
          if msg.mask.testBit i = true then max 0 (msg.requestNumber i) else 0 := by
    simp [positiveOrdered]
  have hnumber : 0 ≤ requestChange s.camera3Streams.length msg s.requestThread.requestNumber i ∧
      requestChange s.camera3Streams.length msg s.requestThread.requestNumber i ≤
        s.requestThread.requestNumber i +
          if msg.mask.testBit i = true then max 0 (msg.requestNumber i) else 0 := by
    rw [requestChange, hstreams]
    by_cases hbit : msg.mask.testBit i = true
    · have hkeep := hok msg (by rw [hq]; rfl) htype i hi.1 hi.2 hbit
      have hne : s.requestThread.requestNumber i ≠ requestNumberUmlimit := by
        rw [requestNumberUmlimit]
        omega
      rw [if_pos ⟨hi.1, hbit⟩, if_neg hne, if_pos hbit]
      omega
    · rw [if_neg (fun hc => hbit hc.2), if_neg hbit]
      omega
  refine ⟨hnumber.1, ?_, fun hrefused => ?_⟩
  · show (s.containing cfg i : ℤ) ≤
      positiveOrdered { s with log := { s.log with consumed := s.log.consumed ++ [msg] } } i
    rw [hordered]
    omega
  · show s.containing cfg i +
        requestChange s.camera3Streams.length msg s.requestThread.requestNumber i ≤
      positiveOrdered { s with log := { s.log with consumed := s.log.consumed ++ [msg] } } i +
        s.uncounted i
    rw [hordered, huncounted]
    omega

theorem submit (h : CountsInv cfg i s) (hsel : SelectionInv cfg s) (hi : StartsFinite cfg i)
    {selected : ℕ → ℕ} {buffers : List StreamBuffer} {accepted : Bool}
    (hpc : s.requestPc = .submit selected buffers) (inFlight : List (ℕ × StreamBuffer)) :
    CountsInv cfg i
      { s with
        inFlight := inFlight
        requestPc := .inCall selected buffers accepted
        log := { s.log with
          submitted := s.log.submitted ++ [⟨s.requestThread.frameNumber, buffers, accepted,
            s.requestThread.requestNumber⟩] } } := by
  have hnonneg := h.nonneg
  have hleft := h.left (by rw [hpc]; exact id)
  have hiteration := hsel.iteration
  simp only [hpc, Iteration] at hiteration
  obtain ⟨hselects, hbuffers⟩ := hiteration
  simp only [uncounted, hpc] at hleft
  have hcontains : Contains cfg ⟨s.requestThread.frameNumber, buffers, accepted,
      s.requestThread.requestNumber⟩ i ↔ selected i ≠ 0 := contains_iff_selected hbuffers i hi.1
  have hselected : selected i ≤ 1 ∧ (selected i ≠ 0 → s.requestThread.requestNumber i ≠ 0) := by
    rw [hselects.eq]
    exact ⟨selectStreams_le_one _ i, fun hne => (selectStreams_ne_zero.mp hne).2.1⟩
  have hcount : ∀ d : Device, d.log.submitted = s.log.submitted ++
      [⟨s.requestThread.frameNumber, buffers, accepted, s.requestThread.requestNumber⟩] →
        d.containing cfg i = s.containing cfg i + selected i := by
    intro d hd
    simp only [containing, hd, List.countP_append, List.countP_singleton, decide_eq_true_eq,
      hcontains]
    split_ifs with hne <;> omega
  refine ⟨hnonneg, ?_, fun hrefused => ?_⟩
  · rw [hcount _ rfl]
    show (s.containing cfg i + selected i : ℕ) ≤ s.positiveOrdered i
    by_cases hne : selected i = 0
    · omega
    · have := hselected.2 hne
      omega
  · rw [hcount _ rfl]
    cases accepted with
    | false => exact absurd trivial hrefused
    | true =>
        show ((s.containing cfg i + selected i : ℕ) : ℤ) + s.requestThread.requestNumber i ≤
          s.positiveOrdered i + selected i
        omega

theorem decrement (h : CountsInv cfg i s) (hsel : SelectionInv cfg s) (hi : StartsFinite cfg i)
    {selected : ℕ → ℕ} (hpc : s.requestPc = .decrement selected)
    (hstreams : s.camera3Streams = cfg.camera3Streams) :
    CountsInv cfg i
      { s with
        requestThread :=
          { s.requestThread with
            requestNumber :=
              reduceRequest s.camera3Streams.length selected s.requestThread.requestNumber }
        requestPc := .loop } := by
  have hnonneg := h.nonneg
  have hleft := h.left (by rw [hpc]; exact id)
  have hiteration := hsel.iteration
  simp only [hpc, Iteration] at hiteration
  simp only [uncounted, hpc] at hleft
  obtain ⟨hone, hzero⟩ := hiteration i
  have hnumber : 0 ≤ reduceRequest s.camera3Streams.length selected
        s.requestThread.requestNumber i ∧
      reduceRequest s.camera3Streams.length selected s.requestThread.requestNumber i + selected i =
        s.requestThread.requestNumber i := by
    rw [reduceRequest, hstreams]
    by_cases hpos : 0 < s.requestThread.requestNumber i
    · rw [if_pos ⟨hi.1, hpos⟩]
      omega
    · have hselected : selected i = 0 := by
        by_contra hne
        have := hzero hne
        omega
      rw [if_neg (fun hc => hpos hc.2)]
      omega
  refine ⟨hnumber.1, h.submitted, fun hrefused => ?_⟩
  show s.containing cfg i +
    reduceRequest s.camera3Streams.length selected s.requestThread.requestNumber i ≤
      s.positiveOrdered i + (0 : ℕ)
  omega

theorem request {a : RequestAct} (h : CountsInv cfg i s) (hsel : SelectionInv cfg s)
    (hi : StartsFinite cfg i) (hstages : Stages cfg s) (hok : KeepsFinite cfg (.request a) s)
    (hs : RequestStep cfg s a s') : CountsInv cfg i s' := by
  have hstreams : s.camera3Streams = cfg.camera3Streams := by
    apply hstages.streams
    by_contra hlt
    exact hs.ne_exited (hstages.request (by omega))
  cases hs with
  | change hpc hstop hq htype hfits => exact h.change hi hpc hq htype hstreams hok
  | submit hpc hfreed => exact h.submit hsel hi hpc _
  | decrement hpc => exact h.decrement hsel hi hpc hstreams
  | stopMessage | changeOverflow | bufferWait | bufferWakeEmpty | submitFreed | returnOverflow
  | unlockFreed | rejectFreed | rejectUnknown =>
      exact h.of_move rfl rfl rfl fun hrefused => ⟨hrefused, rfl⟩
  | exit hpc | otherMessage hpc | start hpc | idle hpc | wakeMessage hpc | limitWait hpc
  | limitPass hpc | limitTimeout hpc | limitWake hpc | assembled hpc | skip hpc | getBuffer _ hpc
  | settings hpc | insert hpc | returnAccepted hpc | returnRejected hpc | unlock _ hpc
  | rejectReturn hpc | rejectRemove hpc | rejectAbsent hpc =>
      exact h.of_move rfl rfl rfl
        (by simp [Refused, uncounted, hpc, takeSettings])

theorem of_pc (h : CountsInv cfg i s)
    (hnumber : s'.requestThread.requestNumber = s.requestThread.requestNumber)
    (hpc : s'.requestPc = s.requestPc) (hsub : s'.log.submitted = s.log.submitted)
    (hconsumed : s'.log.consumed = s.log.consumed) : CountsInv cfg i s' :=
  h.of_move hnumber hsub hconsumed fun hrefused =>
    ⟨by rwa [← hpc], by simp only [uncounted, hpc]⟩

theorem step {a : Act} (h : CountsInv cfg i s) (hsel : SelectionInv cfg s)
    (hi : StartsFinite cfg i) (hstages : Stages cfg s) (hok : KeepsFinite cfg a s)
    (hs : Step cfg s a s') : CountsInv cfg i s' := by
  cases hs with
  | request hs => exact h.request hsel hi hstages hok hs
  | hal hs =>
      have hf := hs.frame
      exact h.of_pc (by rw [hf.requestThread]) hf.requestPc hf.submitted hf.consumed
  | result hs =>
      have hf := hs.frame
      exact h.of_pc (by rw [hf.requestThread]) hf.requestPc hf.submitted hf.consumed
  | encoderReturn ht => exact h.of_pc rfl rfl rfl rfl
  | stop hs =>
      have hf := hs.frame
      exact h.of_pc hf.requestNumber hf.requestPc (by rw [hf.log]) (by rw [hf.log])
  | user hs =>
      have hf := hs.frame
      exact h.of_pc hf.requestNumber hf.requestPc (by rw [hf.log]) (by rw [hf.log])

end CountsInv

theorem countsInv (h : Run cfg (KeepsFinite cfg) s) (hi : StartsFinite cfg i) :
    CountsInv cfg i s :=
  h.invariant (.init hi) fun _ _ _ hr hc _ hok hs =>
    hc.step (selectionInv hr) hi (stages hr) hok hs

/-- **A finite number stays finite**, and so do the requests, in every run whose messages keep the
condition. -/
theorem countsKept (h : Run cfg (KeepsFinite cfg) s) (hi : StartsFinite cfg i) :
    CountsKept cfg s i := by
  have hinv := countsInv h hi
  exact ⟨hinv.nonneg, hinv.submitted⟩

theorem countsKept_two_commands : ∃ s, s.containing snapshotSetup 1 = 1 ∧
    s.positiveOrdered 1 = 5 ∧ CountsKept snapshotSetup s 1 := by
  obtain ⟨s, hs, hcontaining, hordered⟩ : ∃ s, Run snapshotSetup (KeepsFinite snapshotSetup) s ∧
      s.containing snapshotSetup 1 = 1 ∧ s.positiveOrdered 1 = 5 :=
    Run.exists_of_exec ([.user (.requestCapture 5), .request .iterate, .user (.requestCapture (-3)),
      .request .iterate] ++ acceptSnapshot) (by decide +kernel)
  exact ⟨s, hcontaining, hordered, countsKept hs ⟨by decide, by decide⟩⟩

theorem not_kept_of_not_keepsFinite (h : Run cfg (KeepsFinite cfg) s)
    (hs : Step cfg s (.request .iterate) s') (hrun : s.requestThread.stopped = false)
    (hnot : ¬ KeepsFinite cfg (.request .iterate) s) :
    s'.fault = some .signedOverflow ∨
      ∃ i, StartsFinite cfg i ∧ s'.requestThread.requestNumber i < 0 := by
  simp only [KeepsFinite, not_forall] at hnot
  obtain ⟨msg, hmsg, htype, i, hlt, hzero, hbit, hout⟩ := hnot
  have hi : StartsFinite cfg i := ⟨hlt, hzero⟩
  obtain ⟨queue, hq⟩ : ∃ queue, s.requestThread.messageQueue = msg :: queue :=
    List.head?_eq_some_iff.mp hmsg
  have hnonneg := (countsInv h hi).nonneg
  have hne : s.requestThread.requestNumber i ≠ requestNumberUmlimit := by
    rw [requestNumberUmlimit]
    omega
  cases hs with
  | request hs =>
      have hstages := stages h
      have hstreams : s.camera3Streams = cfg.camera3Streams := by
        apply hstages.streams
        by_contra hlt
        exact hs.ne_exited (hstages.request (by omega))
      have hchange : requestChange s.camera3Streams.length msg s.requestThread.requestNumber i =
          s.requestThread.requestNumber i + msg.requestNumber i := by
        rw [requestChange, hstreams, if_pos ⟨hi.1, hbit⟩, if_neg hne]
      cases hs with
      | change hpc hstop hq' htype' hfits =>
          obtain ⟨rfl, rfl⟩ := List.cons.inj (hq.symm.trans hq')
          have hfit := hfits i (by rw [hstreams]; exact hi.1)
          rw [hchange] at hfit
          refine Or.inr ⟨i, hi, ?_⟩
          show requestChange s.camera3Streams.length msg s.requestThread.requestNumber i < 0
          rw [hchange]
          by_contra hge
          exact hout ⟨not_lt.mp hge, hfit.2⟩
      | changeOverflow => exact Or.inl rfl
      | exit hpc hstop => rw [hrun] at hstop; cases hstop
      | stopMessage hpc hstop hq' htype' =>
          obtain ⟨rfl, rfl⟩ := List.cons.inj (hq.symm.trans hq')
          rw [htype] at htype'
          cases htype'
      | otherMessage hpc hstop hq' htype' =>
          obtain ⟨rfl, rfl⟩ := List.cons.inj (hq.symm.trans hq')
          rw [htype] at htype'
          cases htype'
      | start hpc hstop hq' | idle hpc hstop hq' =>
          rw [hq] at hq'
          cases hq'
      | getBuffer ha =>
          rcases ha with ⟨ha, -⟩ | ⟨w, ha, -⟩ <;> cases ha

/-- A command for `-1` pictures is one for pictures without end. -/
theorem not_kept_negative : Console.scanNum "-1".toList = -1 ∧
    ∃ s, Run snapshotSetup HalContract s ∧ StartsFinite snapshotSetup 1 ∧
      s.requestThread.requestNumber 1 = -1 ∧ s.containing snapshotSetup 1 = 1 ∧
      s.positiveOrdered 1 = 0 ∧ ¬ CountsKept snapshotSetup s 1 := by
  refine ⟨by decide +kernel, ?_⟩
  obtain ⟨s, hs, hnumber, hcontaining, hordered⟩ : ∃ s, Run snapshotSetup HalContract s ∧
      s.requestThread.requestNumber 1 = -1 ∧ s.containing snapshotSetup 1 = 1 ∧
      s.positiveOrdered 1 = 0 :=
    Run.exists_of_exec ([.user (.requestCapture (-1)), .request .iterate] ++ acceptSnapshot)
      (by decide +kernel)
  refine ⟨s, hs, ⟨by decide, by decide⟩, hnumber, hcontaining, hordered, fun hkept => ?_⟩
  have := hkept.1
  omega

end Device

end QCamx
