import QCamx.Device.Fails

/-!
# The request record after it is handed over

From `_pending_vector.add` on, a record can be deleted by `ProcessCaptureResult`, while the request
thread still reads it through `pend`: for the settings it unlocks after the call of
`process_capture_request`, or to give the buffers of a rejected request back. Frame numbers grow, so
a record that is deleted belongs to an earlier frame unless its own frame was completed early.

* `CompletesAfterAccess`: the guard; `FreedOlder`: the invariant;
* **`fault_ne_useAfterFree`**: no access to a deleted record in runs in which no result completes
  the held frame.
-/

namespace QCamx

namespace Device

variable {cfg : Setup} {s s' : Device}

/-- The critical section of `_pending_lock` removes the record of the result's frame. -/
def Completes (r : CaptureResult) (s : Device) : Prop :=
  ∃ i, s.pendingVector.indexOfKey r.frameNumber = some i ∧
    Complete (countResult r (s.pendingVector.valueAt i))

instance (r : CaptureResult) (s : Device) : Decidable (Completes r s) :=
  decidable_of_iff ((s.pendingVector.indexOfKey r.frameNumber).any fun i =>
    decide (Complete (countResult r (s.pendingVector.valueAt i))))
    ((Option.any_eq_true _ _).trans (by simp [Completes]))

/-- No result completes a frame before the request thread's last access to its record. -/
def CompletesAfterAccess : Act → Device → Prop
  | .hal (.count r), s => Completes r s → s.heldRecord ≠ some r.frameNumber
  | _, _ => True

instance : ∀ (a : Act) (s : Device), Decidable (CompletesAfterAccess a s)
  | .hal (.count _), _ => instDecidableForall
  | .hal (.call _), _ | .hal (.lock _), _ | .hal (.push _), _ | .hal .unlock, _ | .request _, _
  | .result _, _ | .encoderReturn _, _ | .stop _, _ | .user _, _ => isTrue trivial

/-- Deleted records are older than the held one. -/
def FreedOlder (s : Device) : Prop := ∀ n ∈ s.freed, n < s.heldRecord.getD s.nextRecord

theorem FreedOlder.congr (h : FreedOlder s) (hfreed : s'.freed = s.freed)
    (hheld : s'.heldRecord = s.heldRecord) (hnext : s'.nextRecord = s.nextRecord) :
    FreedOlder s' := by
  unfold FreedOlder
  rw [hfreed, hheld, hnext]
  exact h

theorem FreedOlder.request {a : RequestAct} (h : FreedOlder s) (hnum : Numbering s)
    (hs : RequestStep cfg s a s') : FreedOlder s' := by
  cases hs with
  | insert hpc | rejectRemove hpc | rejectAbsent hpc =>
      simp only [FreedOlder, heldRecord, nextRecord, hpc] at h
      exact h
  | unlock setting hpc hfreed hset =>
      have hheld := hnum.held
      simp only [FreedOlder, heldRecord, nextRecord, hpc, Option.getD_some, Option.some_inj,
        forall_eq'] at h hheld
      intro n hn
      show n < s.requestThread.frameNumber
      have := h n hn
      omega
  | changeOverflow | bufferWait | bufferWakeEmpty | submitFreed | returnOverflow | unlockFreed
  | rejectFreed | rejectUnknown =>
      exact h.congr rfl rfl rfl
  | getBuffer ha hpc =>
      exact h.congr rfl (by simp [heldRecord, hpc]) (by simp [nextRecord, hpc])
  | exit hpc | stopMessage hpc | otherMessage hpc | change hpc | start hpc | idle hpc
  | wakeMessage hpc | limitWait hpc | limitPass hpc | limitTimeout hpc | limitWake hpc
  | assembled hpc | skip hpc | settings hpc | submit hpc | returnAccepted hpc
  | returnRejected hpc | rejectReturn hpc | decrement hpc =>
      exact h.congr rfl (by simp [heldRecord, hpc, takeSettings, returnBuffer])
        (by simp [nextRecord, hpc, takeSettings, returnBuffer])

theorem FreedOlder.hal {a : HalAct} (h : FreedOlder s) (hnum : Numbering s)
    (hok : CompletesAfterAccess (.hal a) s) (hs : HalStep s a s') : FreedOlder s' := by
  have hheld : s'.heldRecord = s.heldRecord :=
    heldRecord_congr hs.frame.requestPc (by rw [hs.frame.requestThread])
  have hnext : s'.nextRecord = s.nextRecord :=
    nextRecord_congr hs.frame.requestPc (by rw [hs.frame.requestThread])
  cases hs with
  | countComplete hr hi hc =>
      rename_i r i
      have hne := hok ⟨i, hi, hc⟩
      have hn : r.frameNumber < s.nextRecord :=
        hnum.pending_lt _ (by rw [KeyedVector.find?_of_indexOfKey hi]; simp)
      unfold FreedOlder
      rw [hheld, hnext]
      intro n hmem
      rcases List.mem_append.mp hmem with hmem | hmem
      · exact h n hmem
      · obtain rfl := List.mem_singleton.mp hmem
        cases hh : s.heldRecord with
        | none => exact hn
        | some m =>
            have hm := hnum.held m hh
            have hrm : m ≠ r.frameNumber := fun e => hne (e ▸ hh)
            simp only [Option.getD_some]
            omega
  | _ => exact h.congr rfl hheld hnext

theorem FreedOlder.step {a : Act} (h : FreedOlder s) (hnum : Numbering s)
    (hok : CompletesAfterAccess a s) (hs : Step cfg s a s') : FreedOlder s' := by
  cases hs with
  | request hs => exact h.request hnum hs
  | hal hs => exact h.hal hnum hok hs
  | result hs =>
      exact h.congr hs.frame.freed
        (heldRecord_congr hs.frame.requestPc (by rw [hs.frame.requestThread]))
        (nextRecord_congr hs.frame.requestPc (by rw [hs.frame.requestThread]))
  | encoderReturn ht => exact h.congr rfl rfl rfl
  | stop hs =>
      exact h.congr hs.frame.freed (heldRecord_congr hs.frame.requestPc hs.frame.frameNumber)
        (nextRecord_congr hs.frame.requestPc hs.frame.frameNumber)
  | user hs =>
      exact h.congr hs.frame.freed (heldRecord_congr hs.frame.requestPc hs.frame.frameNumber)
        (nextRecord_congr hs.frame.requestPc hs.frame.frameNumber)

theorem FreedOlder.not_mem_freed (h : FreedOlder s) {n : ℕ} (hn : s.heldRecord = some n) :
    n ∉ s.freed := by
  intro hmem
  have hlt := h n hmem
  rw [hn] at hlt
  exact lt_irrefl n hlt

theorem freedOlder (h : Run cfg CompletesAfterAccess s) : FreedOlder s :=
  h.invariant (fun n hn => by cases hn) fun _ _ _ hr hi _ ha hs => hi.step (numbering hr) ha hs

/-- **The request thread accesses no deleted record** in runs in which no result completes a frame
before that access. -/
theorem fault_ne_useAfterFree (h : Run cfg CompletesAfterAccess s) :
    s.fault ≠ some .useAfterFree ∧ ∀ n, s.heldRecord = some n → n ∉ s.freed := by
  refine ⟨h.fault_ne fun s a s' hr _ _ hfails => ?_, fun n hn =>
    (freedOlder h).not_mem_freed hn⟩
  cases hfails with
  | useAfterFree hheld hn => exact (freedOlder hr).not_mem_freed hheld hn

/-- Frame `0` is completed after the last access to its record; that of frame `1` is held. -/
theorem held_record_after_submit :
    ∃ s, Run (previewSetup 2) CompletesAfterAccess s ∧ s.freed = [0] ∧ s.heldRecord = some 1 ∧
      s.fault ≠ some .useAfterFree ∧ 1 ∉ s.freed := by
  obtain ⟨s, hr, hfreed, hheld⟩ : ∃ s, Run (previewSetup 2) CompletesAfterAccess s ∧
      s.freed = [0] ∧ s.heldRecord = some 1 :=
    Run.exists_of_exec
      (acceptRequest ++ deliverResult resultZero ++ assembleRequest ++ [.request (.submit true)])
      (by decide +kernel)
  obtain ⟨hfault, hrecord⟩ := fault_ne_useAfterFree hr
  exact ⟨s, hr, hfreed, hheld, hfault, hrecord 1 hheld⟩

/-- A HAL that delivers the whole result before `process_capture_request` returns. -/
theorem useAfterFree_of_fast_hal :
    ¬ ∀ s, Run (previewSetup 2) HalContract s → s.fault ≠ some .useAfterFree := by
  intro h
  obtain ⟨s, hr, hs⟩ : ∃ s, Run (previewSetup 2) HalContract s ∧
      s.fault = some .useAfterFree :=
    Run.exists_of_exec
      (assembleRequest ++ [.request (.submit true)] ++ deliverResult resultZero ++
        [.return, .unlock].map .request)
      (by decide +kernel)
  exact h s hr hs

end Device

end QCamx
