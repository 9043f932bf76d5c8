import QCamx.Device.Fails
import QCamx.Device.Pending
import QCamx.Device.Stages

/-!
# The result thread's data during `stop_streams`

`stop_streams` deletes the data of the result thread once `_pending_vector` is empty, or once it has
waited five times in vain and clears the vector itself. In the first case the ledger says that the
HAL has delivered every buffer; in the second nothing does.

* `NoBufferOutstanding`: what must hold where `stop_streams` clears the vector;
* **`fault_ne_nullResultThread`**: then no call of `ProcessCaptureResult` uses deleted data, and no
  buffer is outstanding from the deletion on.
-/

namespace QCamx

namespace Device

variable {cfg : Setup} {s s' : Device}

/-- The HAL owes no buffer, and no call with buffers is before its critical section. -/
structure NoBufferOutstanding (s : Device) : Prop where
  inFlight : s.inFlight = []
  entering : s.entering = []
  holder : s.holder = none

instance (s : Device) : Decidable (NoBufferOutstanding s) :=
  decidable_of_iff (s.inFlight = [] ∧ s.entering = [] ∧ s.holder = none)
    ⟨fun h => ⟨h.1, h.2.1, h.2.2⟩, fun h => ⟨h.inFlight, h.entering, h.holder⟩⟩

/-- The HAL keeps its contract, and `stop_streams` gives up waiting only where no buffer is
outstanding. -/
def ClearsAfterLast (a : Act) (s : Device) : Prop :=
  HalContract a s ∧ (ForcesClear a s → NoBufferOutstanding s)

instance (a : Act) (s : Device) : Decidable (ClearsAfterLast a s) := by
  unfold ClearsAfterLast; infer_instance

/-- Until the wait for the pending requests is over the ledger is kept; from then on nothing is
outstanding. -/
structure TeardownInv (s : Device) : Prop where
  nonempty : ∀ r, r ∈ s.entering ∨ r ∈ s.holder.map Prod.fst → r.outputBuffers ≠ []
  ledger : s.stopPc.stage < 6 → LedgerInv s
  outstanding : 6 ≤ s.stopPc.stage → NoBufferOutstanding s

namespace TeardownInv

theorem init (cfg : Setup) : TeardownInv cfg.init where
  nonempty r hr := by
    rcases hr with hr | hr
    · cases hr
    · cases hr
  ledger _ := .init cfg
  outstanding h := absurd h (by simp [Setup.init])

theorem drained (h : TeardownInv s) (hst : s.stopPc.stage < 6)
    (hempty : s.pendingVector.isEmpty = true) : NoBufferOutstanding s := by
  obtain ⟨hin, hcalls⟩ := (h.ledger hst).valid.delivered_of_pending_eq_none
    (KeyedVector.isEmpty_iff.mp hempty)
  refine ⟨Multiset.coe_eq_zero _ |>.mp hin, ?_, ?_⟩
  · refine List.eq_nil_iff_forall_not_mem.mpr fun r hr => h.nonempty r (Or.inl hr) (hcalls r ?_)
    exact List.mem_append_left _ (List.mem_append_left _ hr)
  · rcases hheld : s.holder with - | ⟨r, pushed⟩
    · rfl
    · refine absurd (hcalls r ?_) (h.nonempty r (Or.inr (by rw [hheld]; rfl)))
      refine List.mem_append_left _ (List.mem_append_right _ ?_)
      simp [hheld]

theorem congr (h : TeardownInv s) (hledger : LedgerInv s → LedgerInv s')
    (hstop : s'.stopPc = s.stopPc) (hin : s'.inFlight = s.inFlight)
    (hentering : s'.entering = s.entering) (hholder : s'.holder = s.holder) :
    TeardownInv s' where
  nonempty := by rw [hentering, hholder]; exact h.nonempty
  ledger hst := hledger (h.ledger (hstop ▸ hst))
  outstanding hst := by
    obtain ⟨hin₀, hentering₀, hholder₀⟩ := h.outstanding (hstop ▸ hst)
    exact ⟨hin.trans hin₀, hentering.trans hentering₀, hholder.trans hholder₀⟩

theorem inside (h : TeardownInv s) (hledger : LedgerInv s → LedgerInv s')
    (hstop : s'.stopPc = s.stopPc) (hcall : s.entering ≠ [] ∨ s.holder ≠ none)
    (hsub : ∀ r, r ∈ s'.entering ∨ r ∈ s'.holder.map Prod.fst →
      r ∈ s.entering ∨ r ∈ s.holder.map Prod.fst) : TeardownInv s' where
  nonempty r hr := h.nonempty r (hsub r hr)
  ledger hst := hledger (h.ledger (hstop ▸ hst))
  outstanding hst := by
    have hn := h.outstanding (hstop ▸ hst)
    rcases hcall with hne | hne
    · exact absurd hn.entering hne
    · exact absurd hn.holder hne

theorem hal {a : HalAct} (h : TeardownInv s) (hnum : Numbering s)
    (hok : HalContract (.hal a) s) (hs : HalStep s a s') : TeardownInv s' := by
  have hledger : LedgerInv s → LedgerInv s' := fun hl => hl.hal hnum hok hs
  cases hs with
  | @call r hr =>
      refine ⟨?_, fun hst => hledger (h.ledger hst), fun hst => ?_⟩
      · rintro r' (hr' | hr')
        · rcases List.mem_cons.mp hr' with rfl | hr'
          · exact hr
          · exact h.nonempty r' (Or.inl hr')
        · exact h.nonempty r' (Or.inr hr')
      · -- the HAL cannot return a buffer that it does not hold
        have hin := (h.outstanding hst).inFlight
        have hle := hok.2.length_le
        rw [hin, List.length_map, List.length_nil] at hle
        exact absurd (List.eq_nil_of_length_eq_zero (by omega)) hr
  | lock hr hheld hnull =>
      refine h.inside hledger rfl (Or.inl (List.ne_nil_of_mem hr)) ?_
      rintro r' (hr' | hr')
      · exact Or.inl (List.mem_of_mem_erase hr')
      · obtain rfl := Option.some.inj hr'
        exact Or.inl hr
  | pushStopped hheld hnull hstopped =>
      exact h.inside hledger rfl (Or.inr (by simp [hheld])) fun r' hr' => by
        simpa [hheld] using hr'
  | push hheld hview hnull hstopped =>
      exact h.inside hledger rfl (Or.inr (by simp [hheld])) fun r' hr' => by
        simpa [hheld, pushResult] using hr'
  | unlock hheld hnull =>
      exact h.inside hledger rfl (Or.inr (by simp [hheld])) fun r' hr' =>
        Or.inl (hr'.resolve_right (by simp))
  | _ => exact h.congr hledger rfl rfl rfl rfl

theorem stop {a : StopAct} (h : TeardownInv s) (hnum : Numbering s)
    (hok : ClearsAfterLast (.stop a) s) (hs : StopStep cfg s a s') : TeardownInv s' := by
  have hf := hs.frame
  -- once the vector is dealt with, nothing is outstanding and the ledger is not needed
  have hover : s'.stopPc = .delete ∨ s'.stopPc = .stopped → NoBufferOutstanding s →
      TeardownInv s' := by
    rintro hpc ⟨hin, hentering, hholder⟩
    refine ⟨by rw [hf.entering, hf.holder]; exact h.nonempty, fun hst => ?_, fun _ => ?_⟩
    · rcases hpc with hpc | hpc <;> simp [hpc] at hst
    · exact ⟨hf.inFlight.trans hin, hf.entering.trans hentering, hf.holder.trans hholder⟩
  have hbefore : ¬ ForcesClear (.stop a) s → s.stopPc.stage < 6 → s'.stopPc.stage < 6 →
      TeardownInv s' := by
    intro hclear hst hst'
    refine ⟨by rw [hf.entering, hf.holder]; exact h.nonempty, fun _ => ?_, fun hle => by omega⟩
    have hstep : Step cfg s (.stop a) s' := .stop hs
    exact (h.ledger hst).step hnum hok.1 hclear hstep
  cases hs with
  | drained hpc hempty => exact hover (Or.inl rfl) (h.drained (by simp [hpc]) hempty)
  | forcedClear hpc hempty => exact hover (Or.inl rfl) (hok.2 ⟨rfl, hpc, hempty⟩)
  | delete hpc => exact hover (Or.inr rfl) (h.outstanding (by simp [hpc]))
  | drainWait hpc hempty htry =>
      refine hbefore (fun hc => ?_) (by simp [hpc]) (by simp)
      obtain rfl := StopPc.drain.inj (hpc.symm.trans hc.2.1)
      exact lt_irrefl 0 htry
  | begin hpc | postRequest hpc | joinRequest hpc | postResult hpc | joinResult hpc
  | timeout hpc | wake hpc =>
      exact hbefore (fun hc => by cases hc.1) (by simp [hpc]) (by simp)

theorem step {a : Act} (h : TeardownInv s) (hnum : Numbering s) (hstages : Stages cfg s)
    (hok : ClearsAfterLast a s) (hs : Step cfg s a s') : TeardownInv s' := by
  cases hs with
  | request hs =>
      have hf := hs.frame
      have hlt : s.stopPc.stage < 3 := by
        by_contra hle
        exact hs.ne_exited (hstages.request (by omega))
      refine ⟨by rw [hf.entering, hf.holder]; exact h.nonempty, fun _ => ?_, fun hst => ?_⟩
      · exact (h.ledger (by omega)).request hnum hs
      · rw [hf.stopPc] at hst
        omega
  | hal hs => exact h.hal hnum hok.1 hs
  | result hs =>
      have hf := hs.frame
      exact h.congr (fun hl => hl.step hnum hok.1 (fun hc => by cases hc.1) (.result hs))
        hf.stopPc hf.inFlight hf.entering hf.holder
  | encoderReturn ht =>
      have hstep : Step cfg s _ _ := .encoderReturn ht
      exact h.congr (fun hl => hl.step hnum hok.1 (fun hc => by cases hc.1) hstep) rfl rfl rfl rfl
  | stop hs => exact h.stop hnum hok hs
  | user hs =>
      have hf := hs.frame
      exact h.congr (fun hl => hl.step hnum hok.1 (fun hc => by cases hc.1) (.user hs))
        hf.stopPc hf.inFlight hf.entering hf.holder

end TeardownInv

theorem teardownInv (h : Run cfg ClearsAfterLast s) : TeardownInv s :=
  h.invariant (.init cfg) fun _ _ _ hr hi _ hok hs =>
    hi.step (numbering hr) (stages hr) hok hs

/-- **No call of `ProcessCaptureResult` uses the deleted data of the result thread**, in runs in
which `stop_streams` clears the vector only where no buffer is outstanding. -/
theorem fault_ne_nullResultThread (h : Run cfg ClearsAfterLast s) :
    s.fault ≠ some .nullResultThread ∧ (s.resultThreadNull = true → NoBufferOutstanding s) := by
  have hquiet : ∀ {s}, Run cfg ClearsAfterLast s → s.resultThreadNull = true →
      NoBufferOutstanding s := fun hr hnull =>
    (teardownInv hr).outstanding (by have := (stages hr).null.mp hnull; omega)
  refine ⟨h.fault_ne fun s a s' hr _ _ hfails => ?_, hquiet h⟩
  cases hfails with
  | nullResultThread hnull hcall =>
      obtain ⟨-, hentering, hholder⟩ := hquiet hr hnull
      rcases hcall with hne | hne
      · exact hne hentering
      · exact hne hholder

/-- The steps of `stop` up to the wait for the pending requests. -/
def stopThreads : List Act :=
  [.stop .begin, .stop .postRequest, .request .iterate, .request .iterate, .stop .joinRequest,
    .stop .postResult, .result .take, .stop .joinResult]

theorem outstanding_after_stop :
    ∃ s, Run (previewSetup 2) ClearsAfterLast s ∧ s.stopPc = .stopped ∧
      s.fault ≠ some .nullResultThread ∧ NoBufferOutstanding s := by
  obtain ⟨s, hr, hpc, hnull⟩ : ∃ s, Run (previewSetup 2) ClearsAfterLast s ∧
      s.stopPc = .stopped ∧ s.resultThreadNull = true :=
    Run.exists_of_exec
      (acceptRequest ++ deliverResult resultZero ++
        [.result .take, .result .callback, .result .callback, .result .giveBack,
          .result .giveBack] ++ stopThreads ++ [.drain, .delete].map .stop)
      (by decide +kernel)
  obtain ⟨hfault, hquiet⟩ := fault_ne_nullResultThread hr
  exact ⟨s, hr, hpc, hfault, hquiet hnull⟩

/-- A result that comes after `stop_streams` gave up waiting for it. -/
theorem nullResultThread_of_late_result :
    ¬ ∀ s, Run (previewSetup 2) HalContract s → s.fault ≠ some .nullResultThread := by
  intro h
  obtain ⟨s, hr, hs⟩ : ∃ s, Run (previewSetup 2) HalContract s ∧
      s.fault = some .nullResultThread :=
    Run.exists_of_exec
      (acceptRequest ++ stopThreads ++
        (List.replicate 5 [Act.stop .drain, Act.stop (.wake .timeout)]).flatten ++
        [.drain, .delete].map .stop ++ [.call resultZero, .lock resultZero].map .hal)
      (by decide +kernel)
  exact h s hr hs

end Device

end QCamx
