import QCamx.Device.Numbering
import QCamx.Ledger

/-!
# Pending requests

The device keeps the ledger: each step of a run under the HAL's contract is an operation of the
ledger or leaves it alone, as long as `stop_streams` does not throw the entries away.

* `Device.ledger`, `LedgerInv`, **`LedgerInv.step`**;
* **`released_once`**: an accepted request is released exactly once, when all of its buffers and
  some metadata have been counted;
* **`pending_until_final`**: it is not released before its final metadata, in runs in which the
  last buffer of a frame does not come between its metadata parts.
-/

namespace QCamx

namespace Device

variable {cfg : Setup} {s s' : Device}

/-- The calls of `ProcessCaptureResult` that have yet to reach `_pending_lock`. -/
def calls (s : Device) : List CaptureResult :=
  s.entering ++ (s.holder.map Prod.fst).toList ++ s.counting

theorem calls_congr (hentering : s'.entering = s.entering) (hholder : s'.holder = s.holder)
    (hcounting : s'.counting = s.counting) : s'.calls = s.calls := by
  rw [calls, calls, hentering, hholder, hcounting]

/-- The ledger of a device. -/
def ledger (s : Device) : Ledger where
  pending n := s.pendingVector.find? n
  freed := s.freed
  requested n := (s.acceptedRequest n).map (·.buffers.length)
  inFlight := s.inFlight
  calls := s.calls
  counted := s.log.counted

/-- `stop_streams` gives up waiting and clears `_pending_vector`. -/
def ForcesClear (a : Act) (s : Device) : Prop :=
  a = .stop .drain ∧ s.stopPc = .drain 0 ∧ s.pendingVector.isEmpty = false

instance (a : Act) (s : Device) : Decidable (ForcesClear a s) := by
  unfold ForcesClear; infer_instance

/-- The device keeps the ledger. -/
structure LedgerInv (s : Device) : Prop where
  valid : s.ledger.Valid
  fresh : ∀ selected buffers, s.requestPc = .submit selected buffers →
    ∃ pend, s.pendingVector.find? s.requestThread.frameNumber = some pend ∧
      Ledger.Fresh buffers.length pend
  signals : s.log.signals = s.freed.length

theorem Numbering.ne_of_requested (h : Numbering s) {n : ℕ} (hn : s.nextAccepted ≤ n) {m : ℕ}
    (hm : s.ledger.requested m ≠ none) : m ≠ n := by
  rintro rfl
  apply hm
  show (s.acceptedRequest m).map _ = none
  rw [h.acceptedRequest_eq_none hn]
  rfl

namespace LedgerInv

theorem init (cfg : Setup) : LedgerInv cfg.init where
  valid :=
    { small := fun n B hB => by cases hB
      balance := fun n => rfl
      known := fun r hr => absurd hr (Multiset.notMem_zero r)
      unknown := fun n hn => rfl
      status := fun n B hB => by cases hB }
  fresh selected buffers hpc := by cases hpc
  signals := rfl

theorem congr (h : LedgerInv s) (hpend : s'.pendingVector = s.pendingVector)
    (hfreed : s'.freed = s.freed) (hsub : s'.log.submitted = s.log.submitted)
    (hin : s'.inFlight = s.inFlight) (hcalls : s'.calls.Perm s.calls)
    (hcounted : s'.log.counted = s.log.counted) (hsignals : s'.log.signals = s.log.signals)
    (hfresh : ∀ selected buffers, s'.requestPc = .submit selected buffers →
      s.requestPc = .submit selected buffers ∧
        s'.requestThread.frameNumber = s.requestThread.frameNumber) : LedgerInv s' where
  valid := by
    have hledger : s'.ledger = s.ledger := by
      simp only [ledger, acceptedRequest, hpend, hfreed, hsub, hin, Multiset.coe_eq_coe.mpr hcalls,
        hcounted]
    rw [hledger]
    exact h.valid
  fresh selected buffers hpc := by
    obtain ⟨hpc₀, hframe⟩ := hfresh selected buffers hpc
    rw [hpend, hframe]
    exact h.fresh selected buffers hpc₀
  signals := by rw [hsignals, hfreed, h.signals]

/-! ## The request thread -/

theorem insert (h : LedgerInv s) (hnum : Numbering s) {selected : ℕ → ℕ}
    {buffers : List StreamBuffer} {settings : Option Metadata}
    (hpc : s.requestPc = .insert selected buffers settings) :
    LedgerInv { s with
      pendingVector := s.pendingVector.add s.requestThread.frameNumber
        { request := ⟨s.requestThread.frameNumber, settings, UInt32.ofNat buffers.length⟩ }
      requestPc := .submit selected buffers } where
  valid := by
    refine h.valid.setPending (s.pendingVector.add _ _).find? fun n hn => ?_
    have hne := hnum.ne_of_requested (n := s.requestThread.frameNumber)
      (by simp [nextAccepted, hpc]) hn
    rw [KeyedVector.find?_add, if_neg hne]
    rfl
  fresh selected' buffers' hpc' := by
    obtain ⟨-, rfl⟩ := RequestPc.submit.inj hpc'
    exact ⟨_, by rw [KeyedVector.find?_add, if_pos rfl], rfl, rfl, rfl⟩
  signals := h.signals

theorem remove (h : LedgerInv s) (hnum : Numbering s) (hpc : s.requestPc = .reject [])
    {i : Fin s.pendingVector.items.length}
    (hi : s.pendingVector.indexOfKey s.requestThread.frameNumber = some i) :
    LedgerInv { s with
      pendingVector := s.pendingVector.removeItemsAt i
      requestPc := .exited } where
  valid := by
    refine h.valid.setPending (s.pendingVector.removeItemsAt i).find? fun n hn => ?_
    have hne := hnum.ne_of_requested (n := s.requestThread.frameNumber)
      (by simp [nextAccepted, hpc]) hn
    rw [KeyedVector.find?_removeItemsAt hi, if_neg hne]
    rfl
  fresh _ _ hpc' := by cases hpc'
  signals := h.signals

theorem submit (h : LedgerInv s) (hnum : Numbering s) {selected : ℕ → ℕ}
    {buffers : List StreamBuffer} (hpc : s.requestPc = .submit selected buffers)
    (accepted : Bool) :
    LedgerInv { s with
      inFlight := if accepted then
          s.inFlight ++ buffers.map fun b => (s.requestThread.frameNumber, b)
        else s.inFlight
      requestPc := .inCall selected buffers accepted
      log := { s.log with
        submitted := s.log.submitted ++ [⟨s.requestThread.frameNumber, buffers, accepted,
          s.requestThread.requestNumber⟩] } } where
  valid := by
    cases accepted with
    | false =>
        have hledger : ledger { s with
            inFlight := s.inFlight
            requestPc := .inCall selected buffers false
            log := { s.log with
              submitted := s.log.submitted ++ [⟨s.requestThread.frameNumber, buffers, false,
                s.requestThread.requestNumber⟩] } } = s.ledger := by
          refine Ledger.ext rfl rfl
            (funext fun n => Eq.trans (congrArg (Option.map _) (acceptedRequest_append rfl n)) ?_)
            rfl rfl rfl
          simp [ledger]
        exact hledger ▸ h.valid
    | true =>
        have hnone := hnum.acceptedRequest_eq_none (n := s.requestThread.frameNumber)
          (by simp [nextAccepted, hpc])
        obtain ⟨pend, hfind, hfresh⟩ := h.fresh selected buffers hpc
        have hlen : buffers.length ≤ maxStream := by
          have := hnum.collected_le
          simpa [collected, hpc] using this
        have hvalid := h.valid.submit (n := s.requestThread.frameNumber)
          (by simp [ledger, hnone]) hfind hfresh hlen
        have hledger : ledger { s with
            inFlight := s.inFlight ++ buffers.map fun b => (s.requestThread.frameNumber, b)
            requestPc := .inCall selected buffers true
            log := { s.log with
              submitted := s.log.submitted ++ [⟨s.requestThread.frameNumber, buffers, true,
                s.requestThread.requestNumber⟩] } } =
            { s.ledger with
              requested := Function.update s.ledger.requested s.requestThread.frameNumber
                (some buffers.length)
              inFlight := s.ledger.inFlight +
                (buffers.map fun b => (s.requestThread.frameNumber, b) :
                  List (ℕ × StreamBuffer)) } := by
          refine Ledger.ext rfl rfl
            (funext fun n => Eq.trans (congrArg (Option.map _) (acceptedRequest_append rfl n)) ?_)
            (Multiset.coe_add _ _).symm rfl rfl
          rcases eq_or_ne n s.requestThread.frameNumber with rfl | hne
          · simp [hnone]
          · simp [ledger, hne, hne.symm]
        exact hledger ▸ hvalid
  fresh _ _ hpc' := by cases hpc'
  signals := h.signals

theorem request {a : RequestAct} (h : LedgerInv s) (hnum : Numbering s)
    (hs : RequestStep cfg s a s') : LedgerInv s' := by
  cases hs with
  | insert hpc => exact h.insert hnum hpc
  | submit hpc hfreed => exact h.submit hnum hpc _
  | rejectRemove hpc hfreed hi => exact h.remove hnum hpc hi
  | stopMessage | change | changeOverflow | bufferWait | bufferWakeEmpty | submitFreed
  | returnOverflow | unlockFreed | rejectFreed | rejectUnknown =>
      exact h.congr rfl rfl rfl rfl .rfl rfl rfl fun _ _ hpc => ⟨hpc, rfl⟩
  | _ => exact h.congr rfl rfl rfl rfl .rfl rfl rfl fun _ _ hpc => by cases hpc

/-! ## The HAL -/

theorem of_calls (h : LedgerInv s) {entering counting : List CaptureResult}
    {holder : Option (CaptureResult × Bool)} {resultThread : CameraThreadData _} {log : Log}
    (hcalls : (entering ++ (holder.map Prod.fst).toList ++ counting).Perm s.calls)
    (hlog : log.submitted = s.log.submitted ∧ log.counted = s.log.counted ∧
      log.signals = s.log.signals) :
    LedgerInv { s with
      entering := entering
      holder := holder
      counting := counting
      resultThread := resultThread
      log := log } :=
  h.congr rfl rfl hlog.1 rfl hcalls hlog.2.1 hlog.2.2 fun _ _ hpc => ⟨hpc, rfl⟩

theorem call (h : LedgerInv s) {r : CaptureResult} (hok : HalContract (.hal (.call r)) s)
    {entering counting : List CaptureResult} {inFlight : List (ℕ × StreamBuffer)}
    (hcalls : (entering ++ (s.holder.map Prod.fst).toList ++ counting).Perm (r :: s.calls))
    (hin : inFlight = s.inFlight.diff (r.outputBuffers.map fun b => (r.frameNumber, b))) :
    LedgerInv { s with
      inFlight := inFlight
      entering := entering
      counting := counting } where
  valid := by
    obtain ⟨hacc, hsub⟩ := hok
    have hrequested : s.ledger.requested r.frameNumber ≠ none := by
      show (s.acceptedRequest r.frameNumber).map _ ≠ none
      obtain ⟨x, hx⟩ := Option.isSome_iff_exists.mp hacc
      simp [hx]
    have hvalid := h.valid.call hrequested (Multiset.coe_le.mpr hsub)
    have hledger : ledger { s with
        inFlight := inFlight, entering := entering, counting := counting } =
        { s.ledger with
          inFlight := s.ledger.inFlight - (r.outputBuffers.map fun b => (r.frameNumber, b) :
            List (ℕ × StreamBuffer))
          calls := r ::ₘ s.ledger.calls } := by
      refine Ledger.ext rfl rfl rfl ?_ (Multiset.coe_eq_coe.mpr hcalls) rfl
      show (inFlight : Multiset (ℕ × StreamBuffer)) = s.inFlight - _
      rw [hin, Multiset.coe_sub, lawful_beq_subsingleton instBEqProd instBEqOfDecidableEq]
    exact hledger ▸ hvalid
  fresh := h.fresh
  signals := h.signals

theorem of_count (h : LedgerInv s) (hnum : Numbering s) {r : CaptureResult}
    (hr : r ∈ s.counting) (hframe : HalFrame s s') (hin : s'.inFlight = s.inFlight)
    (hcalls : s'.calls.Perm (s.calls.erase r)) (hcounted : s'.log.counted = s.log.counted ++ [r])
    (hsignals : s'.log.signals = s'.freed.length)
    (hother : ∀ n, n ≠ r.frameNumber →
      s'.pendingVector.find? n = s.pendingVector.find? n ∧ s'.freed.count n = s.freed.count n)
    (hown : match s.pendingVector.find? r.frameNumber with
      | none => s'.pendingVector.find? r.frameNumber = none ∧ s'.freed = s.freed
      | some pend =>
          if Complete (countResult r pend) then
            s'.pendingVector.find? r.frameNumber = none ∧
              s'.freed = s.freed ++ [r.frameNumber]
          else
            s'.pendingVector.find? r.frameNumber = some (countResult r pend) ∧
              s'.freed = s.freed) : LedgerInv s' := by
  have hmem : r ∈ s.calls := List.mem_append_right _ hr
  have hperm : ((s.freed ++ [r.frameNumber] : List ℕ) : Multiset ℕ) =
      r.frameNumber ::ₘ (s.freed : Multiset ℕ) :=
    (Multiset.coe_add _ _).symm.trans (Multiset.add_comm _ _)
  refine ⟨?_, fun selected buffers hpc => ?_, hsignals⟩
  · have hvalid := h.valid.count hmem s'.pendingVector.find? s'.freed
      (fun n hn => (hother n hn).imp id fun h => by simpa [ledger] using h) (by
        simp only [ledger]
        cases hf : s.pendingVector.find? r.frameNumber with
        | none =>
            simp only [hf] at hown
            exact hown.imp id (congrArg _)
        | some pend =>
            simp only [hf] at hown
            dsimp only
            split_ifs at hown ⊢
            · exact hown.imp id fun h => by rw [h, hperm]
            · exact hown.imp id (congrArg _))
    have hledger : s'.ledger =
        { s.ledger with
          pending := s'.pendingVector.find?
          freed := s'.freed
          calls := s.ledger.calls.erase r
          counted := r ::ₘ s.ledger.counted } := by
      refine Ledger.ext rfl rfl ?_ ?_ (Multiset.coe_eq_coe.mpr hcalls) ?_
      · simp only [ledger, acceptedRequest, hframe.submitted]
      · simp only [ledger, hin]
      · show (s'.log.counted : Multiset CaptureResult) = r ::ₘ (s.log.counted : Multiset _)
        rw [hcounted, ← Multiset.coe_add, Multiset.add_comm]
        rfl
    exact hledger ▸ hvalid
  · -- a frame that is not accepted has no results, so its new record is left alone
    rw [hframe.requestPc] at hpc
    have hne := hnum.ne_of_requested (n := s.requestThread.frameNumber)
      (by simp [nextAccepted, hpc]) (h.valid.known r (Multiset.mem_add.mpr (Or.inl hmem)))
    rw [hframe.requestThread, (hother _ hne.symm).1]
    exact h.fresh selected buffers hpc

theorem hal {a : HalAct} (h : LedgerInv s) (hnum : Numbering s) (hok : HalContract (.hal a) s)
    (hs : HalStep s a s') : LedgerInv s' := by
  have hframe := hs.frame
  have herase : ∀ r ∈ s.counting,
      (s.entering ++ (s.holder.map Prod.fst).toList ++ s.counting.erase r).Perm
        (s.calls.erase r) := fun r hr => by
    refine (List.perm_cons r).mp (List.Perm.trans ?_ (List.perm_cons_erase ?_))
    · exact List.perm_middle.symm.trans ((List.perm_cons_erase hr).symm.append_left _)
    · exact List.mem_append_right _ hr
  cases hs with
  | @callMetadata r hr => exact h.call hok List.perm_middle (by simp [hr])
  | call hr => exact h.call hok (List.Perm.refl _) rfl
  | lock hr hheld hnull =>
      refine h.of_calls ?_ ⟨rfl, rfl, rfl⟩
      rw [calls, hheld]
      exact (List.perm_append_singleton _ _).trans
        ((List.perm_cons_erase hr).symm.trans (by simp)) |>.append_right _
  | pushStopped hheld hnull hstop =>
      exact h.of_calls (by simp [calls, hheld]) ⟨rfl, rfl, rfl⟩
  | push hheld hview hnull hstop =>
      exact h.of_calls (by simp [calls, hheld]) ⟨rfl, rfl, rfl⟩
  | unlock hheld hnull =>
      exact h.of_calls (by simp [calls, hheld]) ⟨rfl, rfl, rfl⟩
  | countAbsent hr hi =>
      have hf := KeyedVector.indexOfKey_eq_none_iff.mp hi
      exact h.of_count hnum hr hframe rfl (herase _ hr) rfl h.signals (fun _ _ => ⟨rfl, rfl⟩)
        (by simp [hf])
  | countComplete hr hi hc =>
      have hf := KeyedVector.find?_of_indexOfKey hi
      refine h.of_count hnum hr hframe rfl (herase _ hr) rfl ?_ (fun n hn => ⟨?_, ?_⟩) ?_
      · simp [signalPending, h.signals]
      · rw [KeyedVector.find?_removeItemsAt hi, if_neg hn]
      · simp [Ne.symm hn]
      · simp [hf, hc, KeyedVector.find?_removeItemsAt hi]
  | count hr hi hc =>
      have hf := KeyedVector.find?_of_indexOfKey hi
      refine h.of_count hnum hr hframe rfl (herase _ hr) rfl h.signals (fun n hn => ⟨?_, rfl⟩) ?_
      · rw [KeyedVector.find?_editValueAt hi, if_neg hn]
      · simp [hf, hc, KeyedVector.find?_editValueAt hi]
  | _ => exact h.congr rfl rfl rfl rfl .rfl rfl rfl fun _ _ hpc => ⟨hpc, rfl⟩

theorem step {a : Act} (h : LedgerInv s) (hnum : Numbering s) (hok : HalContract a s)
    (hclear : ¬ ForcesClear a s) (hs : Step cfg s a s') : LedgerInv s' := by
  cases hs with
  | request hs => exact h.request hnum hs
  | hal hs => exact h.hal hnum hok hs
  | result hs =>
      have hf := hs.frame
      exact h.congr hf.pendingVector hf.freed hf.submitted hf.inFlight
        (by rw [calls_congr hf.entering hf.holder hf.counting]) hf.counted hf.signals
        fun _ _ hpc => ⟨hf.requestPc ▸ hpc, by rw [hf.requestThread]⟩
  | encoderReturn ht =>
      exact h.congr rfl rfl rfl rfl .rfl rfl rfl fun _ _ hpc => ⟨hpc, rfl⟩
  | stop hs =>
      have hf := hs.frame
      have hpend : s'.pendingVector = s.pendingVector := by
        cases hs with
        | forcedClear hpc hempty => exact absurd ⟨rfl, hpc, hempty⟩ hclear
        | _ => rfl
      exact h.congr hpend hf.freed (by rw [hf.log]) hf.inFlight
        (by rw [calls_congr hf.entering hf.holder hf.counting]) (by rw [hf.log])
        (by rw [hf.log]) fun _ _ hpc => ⟨hf.requestPc ▸ hpc, hf.frameNumber⟩
  | user hs =>
      have hf := hs.frame
      exact h.congr hf.pendingVector hf.freed (by rw [hf.log]) hf.inFlight
        (by rw [calls_congr hf.entering hf.holder hf.counting]) (by rw [hf.log])
        (by rw [hf.log]) fun _ _ hpc => ⟨hf.requestPc ▸ hpc, hf.frameNumber⟩

end LedgerInv

/-! ## Released exactly once -/

/-- The HAL keeps its contract, and `stop_streams` does not give up waiting. -/
def WaitsForResults (a : Act) (s : Device) : Prop := HalContract a s ∧ ¬ ForcesClear a s

instance (a : Act) (s : Device) : Decidable (WaitsForResults a s) := by
  unfold WaitsForResults; infer_instance

theorem ledgerInv {ok : Act → Device → Prop} (h : Run cfg ok s)
    (hok : ∀ a s, ok a s → WaitsForResults a s) : LedgerInv s :=
  h.invariant (.init cfg) fun _ a _ hr hi _ ha hs =>
    hi.step (numbering hr) (hok a _ ha).1 (hok a _ ha).2 hs

theorem LedgerInv.status (h : LedgerInv s) {x : Submission}
    (hx : s.acceptedRequest x.frameNumber = some x) :
    s.ledger.IsPending x.frameNumber x.buffers.length ∨
      s.ledger.IsReleased x.frameNumber x.buffers.length :=
  h.valid.status _ _ (by simp [ledger, hx])

/-- A result leaves the records of other frames alone. -/
theorem find?_of_count {r : CaptureResult} (hs : HalStep s (.count r) s') {n : ℕ}
    (hn : n ≠ r.frameNumber) : s'.pendingVector.find? n = s.pendingVector.find? n := by
  cases hs with
  | countAbsent hr hi => rfl
  | countComplete hr hi hc => rw [KeyedVector.find?_removeItemsAt hi, if_neg hn]
  | count hr hi hc => rw [KeyedVector.find?_editValueAt hi, if_neg hn]

/-- The entry of an accepted request is removed once, by the result that completes it. -/
structure ReleasedOnce (cfg : Setup) (s : Device) (x : Submission) : Prop where
  /-- No two calls remove the entry. -/
  once : s.freed.count x.frameNumber ≤ 1
  /-- It is absent if and only if a call has removed it. -/
  absent : s.pendingVector.find? x.frameNumber = none ↔ s.freed.count x.frameNumber = 1
  /-- Not before all buffers and some metadata have been counted. -/
  complete : x.frameNumber ∈ s.freed →
    buffers x.frameNumber s.log.counted = x.buffers.length ∧
      ∃ r ∈ s.log.counted, r.frameNumber = x.frameNumber ∧ 1 ≤ r.partialResult
  /-- And then at the latest, unless the sum of the `partial_result` values wraps to `0`. -/
  released : buffers x.frameNumber s.log.counted = x.buffers.length →
    metadata x.frameNumber s.log.counted % 2 ^ 32 ≠ 0 →
      s.pendingVector.find? x.frameNumber = none
  /-- The counters are those of the frame's own results. -/
  counters : ∀ pend, s.pendingVector.find? x.frameNumber = some pend →
    Counts s.log.counted x.frameNumber x.buffers.length pend
  other : ∀ r s', x.frameNumber ≠ r.frameNumber → step cfg (.hal (.count r)) s = some s' →
    s'.pendingVector.find? x.frameNumber = s.pendingVector.find? x.frameNumber
  signals : s.log.signals = s.freed.length

theorem exists_of_metadata_ne_zero {n : ℕ} {rs : List CaptureResult} (h : metadata n rs ≠ 0) :
    ∃ r ∈ rs, r.frameNumber = n ∧ 1 ≤ r.partialResult := by
  by_contra hnone
  push Not at hnone
  refine h (total_eq_zero fun r hr hn => ?_)
  have hle := mt UInt32.le_iff_toNat_le.mpr (hnone r (Multiset.mem_coe.mp hr) hn)
  have hone : (1 : UInt32).toNat = 1 := rfl
  omega

/-- **Every accepted request is released exactly once**, in any order of the results. -/
theorem released_once (h : Run cfg WaitsForResults s) {x : Submission}
    (hx : x ∈ s.log.submitted) (hacc : x.accepted = true) : ReleasedOnce cfg s x := by
  have hinv := ledgerInv h fun _ _ => id
  have hx' := acceptedRequest_of_mem h x hx hacc
  have hother : ∀ r s', x.frameNumber ≠ r.frameNumber →
      step cfg (.hal (.count r)) s = some s' →
      s'.pendingVector.find? x.frameNumber = s.pendingVector.find? x.frameNumber := by
    intro r s' hne hs
    obtain ⟨-, hs⟩ := Step.of_eq hs
    cases hs with
    | hal hs => exact find?_of_count hs hne
  have hreleased := fun hb hm => hinv.valid.released_of_delivered
    (n := x.frameNumber) (B := x.buffers.length) (by simp [ledger, hx']) hb hm
  rcases hinv.status hx' with ⟨hf, pend, hpend, hc, hnot⟩ | ⟨hf, hpend, hb, hm⟩
  · have hf' : s.freed.count x.frameNumber = 0 := by simpa [ledger] using hf
    have hpend' : s.pendingVector.find? x.frameNumber = some pend := hpend
    exact
      { once := by omega
        absent := by simp [hf', hpend']
        complete := fun hmem => absurd hmem (List.count_eq_zero.mp hf')
        released := fun hb hm => (hreleased hb hm).2.1
        counters := fun pend' he => by
          obtain rfl := Option.some.inj (hpend'.symm.trans he)
          exact hc
        other := hother
        signals := hinv.signals }
  · have hf' : s.freed.count x.frameNumber = 1 := by simpa [ledger] using hf
    have hpend' : s.pendingVector.find? x.frameNumber = none := hpend
    exact
      { once := hf'.le
        absent := by simp [hf', hpend']
        complete := fun _ => ⟨hb, exists_of_metadata_ne_zero hm⟩
        released := fun _ _ => hpend'
        counters := fun pend' he => by rw [hpend'] at he; cases he
        other := hother
        signals := hinv.signals }

/-- The results of two frames, one between the other's. -/
def interleavedResults : List Act :=
  [.call ⟨1, [], 1⟩, .count ⟨1, [], 1⟩].map .hal ++ deliverResult ⟨0, [⟨1, 0⟩], 0⟩ ++
    [.call ⟨0, [], 1⟩, .count ⟨0, [], 1⟩].map .hal

/-- The first frame is complete, of the second the buffer is missing. -/
theorem released_once_zero :
    ∃ s, Run (previewSetup 2) WaitsForResults s ∧
      (∃ x ∈ s.log.submitted, x.frameNumber = 0 ∧ s.freed = [0] ∧
        ReleasedOnce (previewSetup 2) s x ∧ s.pendingVector.find? x.frameNumber = none) ∧
      ∃ y ∈ s.log.submitted, y.frameNumber = 1 ∧ metadata 1 s.log.counted = 1 ∧
        ReleasedOnce (previewSetup 2) s y ∧ s.pendingVector.find? y.frameNumber ≠ none := by
  obtain ⟨s, hr, hfreed, hmetadata, ⟨x, hx, hxacc, hxn⟩, y, hy, hyacc, hyn⟩ :
      ∃ s, Run (previewSetup 2) WaitsForResults s ∧ s.freed = [0] ∧
        metadata 1 s.log.counted = 1 ∧
        (∃ x ∈ s.log.submitted, x.accepted = true ∧ x.frameNumber = 0) ∧
        ∃ y ∈ s.log.submitted, y.accepted = true ∧ y.frameNumber = 1 :=
    Run.exists_of_exec (acceptRequest ++ acceptRequest ++ interleavedResults) (by decide +kernel)
  have hxonce := released_once hr hx hxacc
  have hyonce := released_once hr hy hyacc
  refine ⟨s, hr, ⟨x, hx, hxn, hfreed, hxonce, ?_⟩, y, hy, hyn, hmetadata, hyonce, ?_⟩
  · rw [hxonce.absent, hfreed, hxn]
    rfl
  · rw [Ne, hyonce.absent, hfreed, hyn]
    decide

/-- Two metadata parts with the numbers `2 ^ 31` sum to `0`, and the entry stays. -/
theorem pending_of_metadata_wrap :
    ¬ ∀ s, Run (previewSetup 2) WaitsForResults s → ∀ x ∈ s.log.submitted, x.accepted = true →
      buffers x.frameNumber s.log.counted = x.buffers.length →
      (∃ r ∈ s.log.counted, r.frameNumber = x.frameNumber ∧ 1 ≤ r.partialResult) →
      s.pendingVector.find? x.frameNumber = none := by
  intro h
  obtain ⟨s, hr, x, hx, hacc, hb, hm, hfind⟩ : ∃ s, Run (previewSetup 2) WaitsForResults s ∧
      ∃ x ∈ s.log.submitted, x.accepted = true ∧
        buffers x.frameNumber s.log.counted = x.buffers.length ∧
        (∃ r ∈ s.log.counted, r.frameNumber = x.frameNumber ∧ 1 ≤ r.partialResult) ∧
        (s.pendingVector.find? x.frameNumber).isSome = true :=
    Run.exists_of_exec
      (acceptRequest ++ [.call ⟨0, [], 2 ^ 31⟩, .count ⟨0, [], 2 ^ 31⟩].map .hal ++
        deliverResult ⟨0, [⟨1, 0⟩], 2 ^ 31⟩)
      (by decide +kernel)
  rw [h s hr x hx hacc hb hm] at hfind
  cases hfind

/-! ## Not before the final metadata -/

/-- The final part of the metadata of frame `n` is among `rs`. -/
def HasFinal (P : UInt32) (n : ℕ) (rs : List CaptureResult) : Prop :=
  ∃ r ∈ rs, r.frameNumber = n ∧ r.partialResult = P

instance (P : UInt32) (n : ℕ) (rs : List CaptureResult) : Decidable (HasFinal P n rs) := by
  unfold HasFinal; infer_instance

/-- Where a result leaves a frame with all buffers and some metadata, the final metadata has come
with it or before it. -/
def FinalWithLastBuffer (P : UInt32) : Act → Device → Prop
  | .hal (.count r), s =>
      ∀ x ∈ s.acceptedRequest r.frameNumber,
        buffers r.frameNumber (r ::ₘ s.log.counted) = x.buffers.length →
        metadata r.frameNumber (r ::ₘ s.log.counted) % 2 ^ 32 ≠ 0 →
        HasFinal P r.frameNumber (r :: s.log.counted)
  | _, _ => True

instance (P : UInt32) : ∀ (a : Act) (s : Device), Decidable (FinalWithLastBuffer P a s)
  | .hal (.count r), s =>
      inferInstanceAs (Decidable (∀ x ∈ s.acceptedRequest r.frameNumber, _ → _ → _))
  | .hal (.call _), _ | .hal (.lock _), _ | .hal (.push _), _ | .hal .unlock, _ | .request _, _
  | .result _, _ | .encoderReturn _, _ | .stop _, _ | .user _, _ => isTrue trivial

theorem finalWithLastBuffer_of_le_one {r : CaptureResult}
    (h : ∀ r' ∈ r :: s.log.counted, r'.partialResult ≤ 1) :
    FinalWithLastBuffer 1 (.hal (.count r)) s := by
  intro x hx hb hm
  have hne : metadata r.frameNumber ((r :: s.log.counted : List CaptureResult)) ≠ 0 := by
    intro h0
    exact hm (by rw [Multiset.cons_coe, h0, Nat.zero_mod])
  obtain ⟨r', hr', hn, hone⟩ := exists_of_metadata_ne_zero hne
  exact ⟨r', hr', hn, UInt32.le_antisymm (h r' hr') hone⟩

theorem HasFinal.mono {P : UInt32} {n : ℕ} {rs rs' : List CaptureResult} (h : HasFinal P n rs)
    (hsub : rs ⊆ rs') : HasFinal P n rs' := by
  obtain ⟨r, hr, hn⟩ := h
  exact ⟨r, hsub hr, hn⟩

/-- The released frames have their final metadata. -/
def FreedFinal (P : UInt32) (s : Device) : Prop := ∀ n ∈ s.freed, HasFinal P n s.log.counted

theorem FreedFinal.step {P : UInt32} {a : Act} (h : FreedFinal P s) (hinv : LedgerInv s)
    (hok : FinalWithLastBuffer P a s) (hs : Step cfg s a s') : FreedFinal P s' := by
  have hkeep : s'.freed = s.freed → s'.log.counted = s.log.counted → FreedFinal P s' := by
    intro hfreed hcounted
    unfold FreedFinal
    rw [hfreed, hcounted]
    exact h
  have happend : ∀ r, s'.freed = s.freed → s'.log.counted = s.log.counted ++ [r] →
      FreedFinal P s' := by
    intro r hfreed hcounted n hn
    rw [hcounted]
    exact (h n (hfreed ▸ hn)).mono (List.subset_append_left _ _)
  cases hs with
  | request hs => exact hkeep hs.frame.freed hs.frame.counted
  | hal hs =>
      cases hs with
      | countAbsent hr hi => exact happend _ rfl rfl
      | count hr hi hc => exact happend _ rfl rfl
      | @countComplete r i hr hi hc =>
          intro n hn
          show HasFinal P n (s.log.counted ++ [r])
          rcases List.mem_append.mp hn with hn | hn
          · exact (h n hn).mono (List.subset_append_left _ _)
          · obtain rfl := List.mem_singleton.mp hn
            have hmem : r ∈ s.ledger.calls := List.mem_append_right _ hr
            have hrequested := hinv.valid.known r (Multiset.mem_add.mpr (Or.inl hmem))
            obtain ⟨B, hB⟩ := Option.ne_none_iff_exists'.mp hrequested
            obtain ⟨x, hx, rfl⟩ := Option.map_eq_some_iff.mp hB
            have hcomplete := (hinv.valid.complete_iff hmem hB
              (KeyedVector.find?_of_indexOfKey hi)).mp hc
            refine (hok x hx hcomplete.1 hcomplete.2).mono fun r' hr' => ?_
            rcases List.mem_cons.mp hr' with rfl | hr'
            · exact List.mem_append_right _ List.mem_cons_self
            · exact List.mem_append_left _ hr'
      | _ => exact hkeep rfl rfl
  | result hs => exact hkeep hs.frame.freed hs.frame.counted
  | encoderReturn ht => exact hkeep rfl rfl
  | stop hs => exact hkeep hs.frame.freed (by rw [hs.frame.log])
  | user hs => exact hkeep hs.frame.freed (by rw [hs.frame.log])

/-- The HAL keeps its contract and brings the final metadata no later than the last buffer, or the
first metadata if that comes after it, and `stop_streams` does not give up waiting. -/
def WaitsForFinal (P : UInt32) (a : Act) (s : Device) : Prop :=
  WaitsForResults a s ∧ FinalWithLastBuffer P a s

instance (P : UInt32) (a : Act) (s : Device) : Decidable (WaitsForFinal P a s) := by
  unfold WaitsForFinal; infer_instance

/-- **A request stays pending while a buffer or its final metadata is outstanding.** -/
theorem pending_until_final {P : UInt32} (h : Run cfg (WaitsForFinal P) s) {x : Submission}
    (hx : x ∈ s.log.submitted) (hacc : x.accepted = true)
    (hmissing : buffers x.frameNumber s.log.counted < x.buffers.length ∨
      ¬ HasFinal P x.frameNumber s.log.counted) :
    s.pendingVector.find? x.frameNumber ≠ none := by
  have hinv := ledgerInv h fun _ _ hok => hok.1
  have hfinal : FreedFinal P s := h.invariant (fun n hn => by cases hn)
    fun _ _ _ hr hi _ hok hs => hi.step (ledgerInv hr fun _ _ hok => hok.1) hok.2 hs
  rcases hinv.status (acceptedRequest_of_mem h x hx hacc) with
    ⟨-, pend, hpend, -⟩ | ⟨hf, -, hb, -⟩
  · have hpend' : s.pendingVector.find? x.frameNumber = some pend := hpend
    simp [hpend']
  · have hmem : x.frameNumber ∈ s.freed := by
      refine List.count_pos_iff.mp ?_
      have hf' : s.freed.count x.frameNumber = 1 := by simpa [ledger] using hf
      omega
    have hb' : buffers x.frameNumber s.log.counted = x.buffers.length := hb
    rcases hmissing with hlt | hnot
    · omega
    · exact absurd (hfinal _ hmem) hnot

theorem pending_between_parts :
    ∃ s, Run (previewSetup 2) (WaitsForFinal 2) s ∧ s.log.counted = [⟨0, [], 1⟩] ∧
      s.pendingVector.find? 0 ≠ none := by
  obtain ⟨s, hr, hcounted, x, hx, hacc, hn, hmissing⟩ :
      ∃ s, Run (previewSetup 2) (WaitsForFinal 2) s ∧ s.log.counted = [⟨0, [], 1⟩] ∧
        ∃ x ∈ s.log.submitted, x.accepted = true ∧ x.frameNumber = 0 ∧
          ¬ HasFinal 2 x.frameNumber s.log.counted :=
    Run.exists_of_exec (acceptRequest ++ [.call ⟨0, [], 1⟩, .count ⟨0, [], 1⟩].map .hal)
      (by decide +kernel)
  exact ⟨s, hr, hcounted, hn ▸ pending_until_final hr hx hacc (Or.inr hmissing)⟩

/-- The first of two metadata parts comes with the buffer, and the entry is gone. -/
theorem released_before_final :
    ¬ ∀ s, Run (previewSetup 2) WaitsForResults s → ∀ x ∈ s.log.submitted, x.accepted = true →
      ¬ HasFinal 2 x.frameNumber s.log.counted →
      s.pendingVector.find? x.frameNumber ≠ none := by
  intro h
  obtain ⟨s, hr, x, hx, hacc, hmissing, hfind⟩ :
      ∃ s, Run (previewSetup 2) WaitsForResults s ∧
        ∃ x ∈ s.log.submitted, x.accepted = true ∧ ¬ HasFinal 2 x.frameNumber s.log.counted ∧
          (s.pendingVector.find? x.frameNumber).isNone = true :=
    Run.exists_of_exec (acceptRequest ++ deliverResult resultZero) (by decide +kernel)
  exact h s hr x hx hacc hmissing (Option.isNone_iff_eq_none.mp hfind)

end Device

end QCamx
