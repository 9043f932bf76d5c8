import QCamx.Device.Frame

/-!
# Frame numbers

The request thread gives frame numbers out in increasing order, so at any moment there is a first
number that has no record yet and a first number that has no accepted request yet. Which they are
depends on where the request thread is between the insertion of a record and its next iteration.

* `heldRecord`: the frame whose record the request thread may still access through `pend`;
* `nextRecord`, `nextAccepted`;
* **`numbering`**: the bounds hold in every run, whatever the HAL does.
-/

namespace QCamx

namespace Device

variable {cfg : Setup} {s s' : Device}

/-- The frame whose record the request thread has added and may still access. -/
def heldRecord (s : Device) : Option ℕ :=
  match s.requestPc with
  | .submit .. | .inCall .. | .reject .. => some s.requestThread.frameNumber
  | .unlock _ frame => some frame
  | _ => none

/-- The first frame number that has no record yet. -/
def nextRecord (s : Device) : ℕ :=
  match s.requestPc with
  | .submit .. | .inCall .. | .reject .. => s.requestThread.frameNumber + 1
  | _ => s.requestThread.frameNumber

/-- The first frame number that has no accepted request yet. -/
def nextAccepted (s : Device) : ℕ :=
  match s.requestPc with
  | .inCall _ _ true => s.requestThread.frameNumber + 1
  | _ => s.requestThread.frameNumber

/-- The buffers the request thread has collected and not yet submitted. -/
def collected (s : Device) : List StreamBuffer :=
  match s.requestPc with
  | .assemble _ _ buffers | .settings _ buffers | .insert _ buffers _ | .submit _ buffers =>
      buffers
  | _ => []

/-- The bounds on frame numbers, and on the buffers of one request. -/
structure Numbering (s : Device) : Prop where
  pending_lt : ∀ n, s.pendingVector.find? n ≠ none → n < s.nextRecord
  accepted_lt : ∀ x ∈ s.log.submitted, x.accepted = true → x.frameNumber < s.nextAccepted
  held : ∀ n, s.heldRecord = some n → n + 1 = s.nextRecord
  streams_le : s.camera3Streams.length ≤ maxStream
  index_le : ∀ selected i buffers, s.requestPc = .assemble selected i buffers →
    buffers.length ≤ i ∧ i ≤ maxStream
  collected_le : s.collected.length ≤ maxStream

theorem heldRecord_congr (hpc : s'.requestPc = s.requestPc)
    (hframe : s'.requestThread.frameNumber = s.requestThread.frameNumber) :
    s'.heldRecord = s.heldRecord := by
  simp only [heldRecord, hpc, hframe]

theorem nextRecord_congr (hpc : s'.requestPc = s.requestPc)
    (hframe : s'.requestThread.frameNumber = s.requestThread.frameNumber) :
    s'.nextRecord = s.nextRecord := by
  simp only [nextRecord, hpc, hframe]

theorem nextAccepted_congr (hpc : s'.requestPc = s.requestPc)
    (hframe : s'.requestThread.frameNumber = s.requestThread.frameNumber) :
    s'.nextAccepted = s.nextAccepted := by
  simp only [nextAccepted, hpc, hframe]

theorem collected_congr (hpc : s'.requestPc = s.requestPc) : s'.collected = s.collected := by
  simp only [collected, hpc]

theorem find?_editValueAt_ne_none {m : KeyedVector ℕ RequestPending} {k : ℕ}
    {i : Fin m.items.length} (hi : m.indexOfKey k = some i) {p : RequestPending} {n : ℕ}
    (hn : (m.editValueAt i p).find? n ≠ none) : m.find? n ≠ none := by
  intro hnone
  apply hn
  rw [KeyedVector.find?_editValueAt hi]
  split_ifs with hkey
  · rw [hkey, KeyedVector.find?_of_indexOfKey hi] at hnone
    cases hnone
  · exact hnone

namespace Numbering

theorem init (cfg : Setup) : Numbering cfg.init where
  pending_lt n hn := absurd rfl hn
  accepted_lt x hx := by cases hx
  held n hn := by cases hn
  streams_le := by
    have hle := cfg.length_camera3Streams_le
    have hmax := length_cameraStreams cfg.testCase cfg.config
    show cfg.camera3Streams.length ≤ maxStream
    cases htc : cfg.testCase <;> simp only [Setup.cameraStreams, htc, maxStream] at hle hmax ⊢ <;>
      omega
  index_le _ _ _ hpc := by cases hpc
  collected_le := Nat.zero_le _

theorem of_pc (h : Numbering s) (hpc : s'.requestPc = s.requestPc)
    (hframe : s'.requestThread.frameNumber = s.requestThread.frameNumber)
    (hsub : s'.log.submitted = s.log.submitted)
    (hpend : ∀ n, s'.pendingVector.find? n ≠ none → s.pendingVector.find? n ≠ none)
    (hstreams : s'.camera3Streams.length ≤ s.camera3Streams.length) : Numbering s' where
  pending_lt n hn := nextRecord_congr hpc hframe ▸ h.pending_lt n (hpend n hn)
  accepted_lt := by rw [nextAccepted_congr hpc hframe, hsub]; exact h.accepted_lt
  held n hn := nextRecord_congr hpc hframe ▸ h.held n (heldRecord_congr hpc hframe ▸ hn)
  streams_le := hstreams.trans h.streams_le
  index_le := by rw [hpc]; exact h.index_le
  collected_le := by rw [collected_congr hpc]; exact h.collected_le

theorem of_move (h : Numbering s) (hrec : s'.nextRecord = s.nextRecord)
    (hacc : s'.nextAccepted = s.nextAccepted) (hsub : s'.log.submitted = s.log.submitted)
    (hpend : s'.pendingVector = s.pendingVector) (hheld : s'.heldRecord = s.heldRecord)
    (hstreams : s'.camera3Streams = s.camera3Streams)
    (hindex : ∀ selected i buffers, s'.requestPc = .assemble selected i buffers →
      buffers.length ≤ i ∧ i ≤ maxStream)
    (hcollected : s'.collected.length ≤ maxStream) : Numbering s' where
  pending_lt := by rw [hrec, hpend]; exact h.pending_lt
  accepted_lt := by rw [hacc, hsub]; exact h.accepted_lt
  held := by rw [hrec, hheld]; exact h.held
  streams_le := by rw [hstreams]; exact h.streams_le
  index_le := hindex
  collected_le := hcollected

theorem insert (h : Numbering s) {selected : ℕ → ℕ} {buffers : List StreamBuffer}
    {settings : Option Metadata} (hpc : s.requestPc = .insert selected buffers settings)
    (p : RequestPending) :
    Numbering { s with
      pendingVector := s.pendingVector.add s.requestThread.frameNumber p
      requestPc := .submit selected buffers } := by
  have hpend := h.pending_lt
  have hacc := h.accepted_lt
  have hcollected := h.collected_le
  simp only [nextRecord, nextAccepted, collected, hpc] at hpend hacc hcollected
  refine ⟨fun n hn => ?_, hacc, fun n hn => ?_, h.streams_le, by simp, hcollected⟩
  · show n < s.requestThread.frameNumber + 1
    simp only [KeyedVector.find?_add] at hn
    split_ifs at hn with hkey
    · omega
    · have := hpend n hn
      omega
  · exact congrArg (· + 1) (Option.some.inj hn).symm

theorem submit (h : Numbering s) {selected : ℕ → ℕ} {buffers : List StreamBuffer}
    (hpc : s.requestPc = .submit selected buffers) (accepted : Bool)
    (inFlight : List (ℕ × StreamBuffer)) :
    Numbering { s with
      inFlight := inFlight
      requestPc := .inCall selected buffers accepted
      log := { s.log with
        submitted := s.log.submitted ++ [⟨s.requestThread.frameNumber, buffers, accepted,
          s.requestThread.requestNumber⟩] } } := by
  have hpend := h.pending_lt
  have hacc := h.accepted_lt
  simp only [nextRecord, nextAccepted, hpc] at hpend hacc
  refine ⟨hpend, fun x hx hax => ?_, fun n hn => ?_, h.streams_le, by simp, by simp [collected]⟩
  · simp only [nextAccepted]
    rcases List.mem_append.mp hx with hx | hx
    · have := hacc x hx hax
      split <;> omega
    · obtain rfl := List.mem_singleton.mp hx
      obtain rfl : accepted = true := hax
      exact Nat.lt_succ_self _
  · exact congrArg (· + 1) (Option.some.inj hn).symm

theorem release (h : Numbering s) (hheld : s'.heldRecord = none)
    (hpend : ∀ n, s'.pendingVector.find? n ≠ none → n < s'.nextRecord)
    (hacc : s'.nextAccepted = s.nextAccepted) (hsub : s'.log.submitted = s.log.submitted)
    (hstreams : s'.camera3Streams = s.camera3Streams)
    (hindex : ∀ selected i buffers, s'.requestPc ≠ .assemble selected i buffers)
    (hcollected : s'.collected = []) : Numbering s' where
  pending_lt := hpend
  accepted_lt := by rw [hacc, hsub]; exact h.accepted_lt
  held n hn := by rw [hheld] at hn; cases hn
  streams_le := by rw [hstreams]; exact h.streams_le
  index_le selected i buffers hpc := absurd hpc (hindex selected i buffers)
  collected_le := by rw [hcollected]; exact Nat.zero_le _

theorem request {a : RequestAct} (h : Numbering s) (hs : RequestStep cfg s a s') :
    Numbering s' := by
  have hcollected := h.collected_le
  cases hs with
  | insert hpc => exact h.insert hpc _
  | submit hpc hfreed => exact h.submit hpc _ _
  | returnAccepted hpc hfits =>
      exact h.of_move (by simp [nextRecord, hpc]) (by simp [nextAccepted, hpc]) rfl rfl
        (by simp [heldRecord, hpc]) rfl (by simp) (by simp [collected])
  | unlock setting hpc hfreed hset =>
      have hpend := h.pending_lt
      simp only [nextRecord, hpc] at hpend
      exact h.release rfl hpend (by simp [nextAccepted, hpc]) rfl rfl (by simp) rfl
  | rejectRemove hpc hfreed hi =>
      have hpend := h.pending_lt
      simp only [nextRecord, hpc] at hpend
      refine h.release rfl (fun n hn => ?_) (by simp [nextAccepted, hpc]) rfl rfl (by simp) rfl
      show n < s.requestThread.frameNumber
      simp only [KeyedVector.find?_removeItemsAt hi] at hn
      split_ifs at hn with hkey
      · exact absurd rfl hn
      · have := hpend n hn
        omega
  | rejectAbsent hpc hfreed hi =>
      have hpend := h.pending_lt
      simp only [nextRecord, hpc] at hpend
      refine h.release rfl (fun n hn => ?_) (by simp [nextAccepted, hpc]) rfl rfl (by simp) rfl
      have hne : n ≠ s.requestThread.frameNumber := by
        rintro rfl
        exact hn (KeyedVector.indexOfKey_eq_none_iff.mp hi)
      show n < s.requestThread.frameNumber
      have := hpend n hn
      omega
  | changeOverflow | bufferWait | bufferWakeEmpty | submitFreed | returnOverflow | unlockFreed
  | rejectFreed | rejectUnknown =>
      exact h.of_pc rfl rfl rfl (fun _ => id) le_rfl
  | limitPass hpc | limitWake hpc =>
      refine h.of_move (by simp [nextRecord, hpc]) (by simp [nextAccepted, hpc]) rfl rfl
        (by simp [heldRecord, hpc]) rfl ?_ (by simp [collected])
      rintro _ _ _ ⟨⟩
      exact ⟨le_rfl, Nat.zero_le _⟩
  | assembled hpc hi =>
      refine h.of_move (by simp [nextRecord, hpc]) (by simp [nextAccepted, hpc]) rfl rfl
        (by simp [heldRecord, hpc]) rfl (by simp) ?_
      simpa [collected, hpc] using hcollected
  | skip hpc hi hsel =>
      have hlt := (List.getElem?_eq_some_iff.mp hi).1
      have hle := h.streams_le
      have hindex := h.index_le _ _ _ hpc
      refine h.of_move (by simp [nextRecord, hpc]) (by simp [nextAccepted, hpc]) rfl rfl
        (by simp [heldRecord, hpc]) rfl ?_ ?_
      · rintro _ _ _ ⟨⟩
        omega
      · simpa [collected, hpc] using hcollected
  | getBuffer ha hpc hi hsel hfree =>
      have hlt := (List.getElem?_eq_some_iff.mp hi).1
      have hle := h.streams_le
      have hindex := h.index_le _ _ _ hpc
      refine h.of_move (by simp [nextRecord, hpc]) (by simp [nextAccepted, hpc]) rfl rfl
        (by simp [heldRecord, hpc]) rfl ?_ ?_
      · rintro _ _ _ ⟨⟩
        simp only [List.length_append, List.length_singleton]
        omega
      · simp only [collected, List.length_append, List.length_singleton]
        omega
  | settings hpc =>
      refine h.of_move (by simp [nextRecord, hpc, takeSettings])
        (by simp [nextAccepted, hpc, takeSettings]) rfl rfl
        (by simp [heldRecord, hpc, takeSettings]) rfl (by simp [takeSettings]) ?_
      simpa [collected, hpc, takeSettings] using hcollected
  | exit hpc | stopMessage hpc | otherMessage hpc | change hpc | start hpc | idle hpc
  | wakeMessage hpc | limitWait hpc | limitTimeout hpc | returnRejected hpc | rejectReturn hpc
  | decrement hpc =>
      exact h.of_move (by simp [nextRecord, hpc, returnBuffer])
        (by simp [nextAccepted, hpc, returnBuffer]) rfl rfl
        (by simp [heldRecord, hpc, returnBuffer]) rfl (by simp [hpc]) (by simp [collected, hpc])

theorem step {a : Act} (h : Numbering s) (hs : Step cfg s a s') : Numbering s' := by
  cases hs with
  | request hs => exact h.request hs
  | hal hs =>
      refine h.of_pc hs.frame.requestPc (by rw [hs.frame.requestThread]) hs.frame.submitted ?_
        (by rw [hs.frame.camera3Streams])
      cases hs with
      | countComplete hr hi hc =>
          intro n hn hnone
          apply hn
          simp [KeyedVector.find?_removeItemsAt hi, hnone]
      | count hr hi hc => exact fun n hn => find?_editValueAt_ne_none hi hn
      | _ => exact fun _ => id
  | result hs =>
      exact h.of_pc hs.frame.requestPc (by rw [hs.frame.requestThread]) hs.frame.submitted
        (fun _ hn => hs.frame.pendingVector ▸ hn) (by rw [hs.frame.camera3Streams])
  | encoderReturn ht => exact h.of_pc rfl rfl rfl (fun _ => id) le_rfl
  | stop hs =>
      refine h.of_pc hs.frame.requestPc hs.frame.frameNumber (by rw [hs.frame.log]) ?_ ?_
      · cases hs with
        | forcedClear => exact fun n hn => absurd rfl hn
        | _ => exact fun _ => id
      · cases hs with
        | delete => exact Nat.zero_le _
        | _ => exact le_rfl
  | user hs =>
      exact h.of_pc hs.frame.requestPc hs.frame.frameNumber (by rw [hs.frame.log])
        (fun _ hn => hs.frame.pendingVector ▸ hn) (by rw [hs.frame.camera3Streams])

end Numbering

/-! ## The submissions -/

/-- **What a step does to the submissions.** -/
theorem Step.submitted {a : Act} (hs : Step cfg s a s') :
    s'.log.submitted = s.log.submitted ∨
      ∃ selected buffers accepted, s.requestPc = .submit selected buffers ∧
        s'.log.submitted = s.log.submitted ++ [⟨s.requestThread.frameNumber, buffers, accepted,
          s.requestThread.requestNumber⟩] := by
  cases hs with
  | request hs =>
      cases hs with
      | submit hpc hfreed => exact Or.inr ⟨_, _, _, hpc, rfl⟩
      | _ => exact Or.inl rfl
  | hal hs => exact Or.inl hs.frame.submitted
  | result hs => exact Or.inl hs.frame.submitted
  | encoderReturn ht => exact Or.inl rfl
  | stop hs => exact Or.inl (by rw [hs.frame.log])
  | user hs => exact Or.inl (by rw [hs.frame.log])

theorem Numbering.acceptedRequest_eq_none (h : Numbering s) {n : ℕ} (hn : s.nextAccepted ≤ n) :
    s.acceptedRequest n = none := by
  refine List.find?_eq_none.mpr fun x hx hp => ?_
  simp only [Bool.and_eq_true, beq_iff_eq] at hp
  have := h.accepted_lt x hx hp.1
  omega

theorem acceptedRequest_append {x : Submission} (hx : s'.log.submitted = s.log.submitted ++ [x])
    (n : ℕ) :
    s'.acceptedRequest n =
      (s.acceptedRequest n).or (if x.accepted && x.frameNumber == n then some x else none) := by
  rw [acceptedRequest, hx, List.find?_append, List.find?_singleton]
  rfl

/-- **The bounds hold in every run.** -/
theorem numbering {ok : Act → Device → Prop} (h : Run cfg ok s) : Numbering s :=
  h.invariant (.init cfg) fun _ _ _ _ hi _ _ hs => hi.step hs

/-- **No two accepted requests have one frame number.** -/
theorem acceptedRequest_of_mem {ok : Act → Device → Prop} (h : Run cfg ok s) :
    ∀ x ∈ s.log.submitted, x.accepted = true → s.acceptedRequest x.frameNumber = some x := by
  refine Run.invariant (P := fun s => ∀ x ∈ s.log.submitted, x.accepted = true →
    s.acceptedRequest x.frameNumber = some x) h (fun x hx => by cases hx) ?_
  intro s a s' hr ih _ _ hs x hx hacc
  rcases hs.submitted with hsub | ⟨selected, buffers, accepted, hpc, hsub⟩
  · rw [hsub] at hx
    rw [acceptedRequest, hsub]
    exact ih x hx hacc
  · rw [acceptedRequest_append hsub]
    rw [hsub, List.mem_append, List.mem_singleton] at hx
    rcases hx with hx | rfl
    · rw [ih x hx hacc, Option.some_or]
    · have hnone := (numbering hr).acceptedRequest_eq_none (n := s.requestThread.frameNumber)
        (by simp [nextAccepted, hpc])
      obtain rfl : accepted = true := hacc
      simp [hnone]

end Device

end QCamx
