import QCamx.Device.Numbering

/-!
# How a device fails

`Fails s a f`: action `a` in state `s` may end in the fault `f`, with what must hold for it.
**`Step.fails`** says that no other step ends in a fault, so each kind of undefined behaviour is
excluded by one fact about the states of a run.
-/

namespace QCamx

namespace Device

variable {cfg : Setup} {s s' : Device}

/-- The faults of a device, and where they come from. -/
inductive Fails (s : Device) : Act → Fault → Prop
  | useAfterFree {a : RequestAct} {n : ℕ} (hheld : s.heldRecord = some n) (hn : n ∈ s.freed) :
      Fails s (.request a) .useAfterFree
  | signedOverflow {a : RequestAct} : Fails s (.request a) .signedOverflow
  | emptyFreeList {w : Wake} {selected : ℕ → ℕ} {i : ℕ} {buffers : List StreamBuffer}
      (hpc : s.requestPc = .assemble selected i buffers) (hfree : s.buffersFree i = []) :
      Fails s (.request (.bufferWake w)) .emptyFreeList
  | rejectUnknown {a : RequestAct} {b : StreamBuffer} {rest : List StreamBuffer}
      (hpc : s.requestPc = .reject (b :: rest))
      (hi : findStreamIndex s.camera3Streams b.stream = none) :
      Fails s (.request a) .unknownStream
  | nullResultThread {a : HalAct} (hnull : s.resultThreadNull = true)
      (hcall : s.entering ≠ [] ∨ s.holder ≠ none) : Fails s (.hal a) .nullResultThread
  | emptyResultQueue {w : Wake} (hw : w ≠ .timeout)
      (hitems : s.resultThread.messageQueue.items = []) :
      Fails s (.result (.wake w)) .emptyResultQueue
  | unknownStream {a : ResultAct} (hpc : s.resultPc ≠ .top) : Fails s (.result a) .unknownStream

/-- **Nothing else ends in a fault.** -/
theorem Step.fails {a : Act} {f : Fault} (hs : Step cfg s a s') (hfault : s.fault = none)
    (hf : s'.fault = some f) : Fails s a f := by
  have hnone : s.fault ≠ some f := by simp [hfault]
  cases hs with
  | request hs =>
      cases hs with
      | changeOverflow | returnOverflow =>
          obtain rfl := Option.some.inj hf
          exact .signedOverflow
      | bufferWakeEmpty hpc hi hm hfree =>
          obtain rfl := Option.some.inj hf
          exact .emptyFreeList hpc hfree
      | submitFreed hpc hfreed | unlockFreed hpc hfreed | rejectFreed hpc hfreed =>
          obtain rfl := Option.some.inj hf
          exact .useAfterFree (by rw [heldRecord, hpc]) hfreed
      | rejectUnknown hpc hi =>
          obtain rfl := Option.some.inj hf
          exact .rejectUnknown hpc hi
      | _ => exact absurd hf hnone
  | hal hs =>
      cases hs with
      | lockNull hr hnull =>
          obtain rfl := Option.some.inj hf
          exact .nullResultThread hnull (Or.inl (List.ne_nil_of_mem hr))
      | pushNull hheld hnull | unlockNull hheld hnull =>
          obtain rfl := Option.some.inj hf
          exact .nullResultThread hnull (Or.inr (by simp [hheld]))
      | _ => exact absurd hf hnone
  | result hs =>
      cases hs with
      | wakeEmpty hpc hheld hw hq hitems =>
          obtain rfl := Option.some.inj hf
          exact .emptyResultQueue hw hitems
      | callbackUnknown hpc | giveBackUnknown hpc =>
          obtain rfl := Option.some.inj hf
          exact .unknownStream (by simp [hpc])
      | @callback msg b rest effects caseState hpc heff =>
          obtain ⟨managers, encoder, he⟩ := foldl_applyEffect effects s
          rw [he] at hf
          exact absurd hf hnone
      | _ => exact absurd hf hnone
  | encoderReturn ht => exact absurd hf hnone
  | stop hs => exact absurd (hs.frame.fault ▸ hf) hnone
  | user hs => exact absurd (hs.frame.fault ▸ hf) hnone

/-- **The fault rule**: a fault that no step of a run can end in does not occur in it. -/
theorem Run.fault_ne {ok : Act → Device → Prop} {f : Fault} (h : Run cfg ok s)
    (hf : ∀ s a s', Run cfg ok s → ok a s → Step cfg s a s' → ¬ Fails s a f) :
    s.fault ≠ some f := by
  have h₀ : cfg.init.fault ≠ some f := by simp [Setup.init]
  refine Run.invariant (P := fun s => s.fault ≠ some f) h h₀ ?_
  intro s a s' hr _ hfault hok hs he
  exact hf s a s' hr hok hs (hs.fails hfault he)

end Device

end QCamx
