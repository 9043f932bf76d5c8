import QCamx.Device.Frame

/-!
# The in-flight limit

`process_one_capture_request` compares the size of `_pending_vector` with the limit once, and after
a wait not at all. The request thread is the only one that adds entries, so the limit holds in runs
in which the wait that returns `0` finds room; a signal is sent by a removal, so a wait that returns
by a signal does.

* **`size_le_maxPendingSize`**: the limit, where every wait that returns `0` finds room, and where
  that wait returns by a signal or a timeout only.
-/

namespace QCamx

/-- The request thread has passed the limit check and not yet added its entry. -/
def RequestPc.passedLimit : RequestPc → Bool
  | .assemble .. | .settings .. | .insert .. => true
  | _ => false

namespace Device

variable {cfg : Setup} {s s' : Device}

/-- The limit, with room for the entry the request thread is about to add. -/
structure LimitInv (cfg : Setup) (s : Device) : Prop where
  size_le : s.pendingVector.size ≤ cfg.maxPendingSize
  room : s.requestPc.passedLimit = true → s.pendingVector.size < cfg.maxPendingSize

/-- A limit wait that returns `0` finds room. -/
def LimitWakeFindsRoom (cfg : Setup) : Act → Device → Prop
  | .request (.limitWake w), s =>
      w ≠ .timeout → s.pendingVector.size < cfg.maxPendingSize
  | _, _ => True

instance (a : Act) (s : Device) : Decidable (LimitWakeFindsRoom cfg a s) := by
  unfold LimitWakeFindsRoom
  split <;> infer_instance

namespace LimitInv

theorem init (cfg : Setup) : LimitInv cfg cfg.init where
  size_le := Nat.zero_le _
  room h := by cases h

theorem of_size_le (h : LimitInv cfg s) (hsize : s'.pendingVector.size ≤ s.pendingVector.size)
    (hpc : s'.requestPc.passedLimit = true → s.requestPc.passedLimit = true) :
    LimitInv cfg s' where
  size_le := hsize.trans h.size_le
  room hp := hsize.trans_lt (h.room (hpc hp))

theorem request {a : RequestAct} (h : LimitInv cfg s)
    (hok : LimitWakeFindsRoom cfg (.request a) s) (hs : RequestStep cfg s a s') :
    LimitInv cfg s' := by
  cases hs with
  | limitPass hpc hsize => exact ⟨h.size_le, fun _ => hsize⟩
  | limitWake hpc hw hsig => exact ⟨h.size_le, fun _ => hok hw⟩
  | insert hpc =>
      have hroom := h.room (by rw [hpc]; rfl)
      exact ⟨(KeyedVector.size_add_le ..).trans hroom, fun hp => by cases hp⟩
  | rejectRemove hpc hfreed hi =>
      refine h.of_size_le ?_ fun hp => by cases hp
      have := s.pendingVector.size_removeItemsAt ‹_›
      simp only
      omega
  | assembled hpc | skip hpc | settings hpc =>
      exact h.of_size_le le_rfl fun _ => by rw [hpc]; rfl
  | getBuffer ha hpc => exact h.of_size_le le_rfl fun _ => by rw [hpc]; rfl
  | stopMessage | changeOverflow | change | bufferWait | bufferWakeEmpty | submitFreed
  | returnOverflow | unlockFreed | rejectFreed | rejectUnknown =>
      exact h.of_size_le le_rfl id
  | _ => exact h.of_size_le le_rfl fun hp => by cases hp

theorem hal {a : HalAct} (h : LimitInv cfg s) (hs : HalStep s a s') : LimitInv cfg s' := by
  refine h.of_size_le ?_ fun hp => hs.frame.requestPc ▸ hp
  cases hs with
  | countComplete hr hi hc =>
      have := s.pendingVector.size_removeItemsAt ‹_›
      simp only
      omega
  | count hr hi hc => exact (KeyedVector.size_editValueAt ..).le
  | _ => exact le_rfl

theorem stop {a : StopAct} (h : LimitInv cfg s) (hs : StopStep cfg s a s') : LimitInv cfg s' := by
  refine h.of_size_le ?_ fun hp => hs.frame.requestPc ▸ hp
  cases hs with
  | forcedClear => exact Nat.zero_le _
  | _ => exact le_rfl

theorem step {a : Act} (h : LimitInv cfg s) (hok : LimitWakeFindsRoom cfg a s)
    (hs : Step cfg s a s') : LimitInv cfg s' := by
  cases hs with
  | request hs => exact h.request hok hs
  | hal hs => exact h.hal hs
  | result hs =>
      exact h.of_size_le (hs.frame.pendingVector ▸ le_rfl) fun hp => hs.frame.requestPc ▸ hp
  | encoderReturn ht => exact h.of_size_le le_rfl id
  | stop hs => exact h.stop hs
  | user hs =>
      exact h.of_size_le (hs.frame.pendingVector ▸ le_rfl) fun hp => hs.frame.requestPc ▸ hp

end LimitInv

theorem limitInv {ok : Act → Device → Prop} (h : Run cfg ok s)
    (hok : ∀ a s, ok a s → LimitWakeFindsRoom cfg a s) : LimitInv cfg s :=
  h.invariant (.init cfg) fun _ a _ _ hi _ ha hs => hi.step (hok a _ ha) hs

/-! ## Waits that return by a signal -/

/-- The limit wait does not return spuriously. -/
def LimitWakeSignalled : Act → Device → Prop
  | .request (.limitWake w), _ => w ≠ .spurious
  | _, _ => True

instance (a : Act) (s : Device) : Decidable (LimitWakeSignalled a s) := by
  unfold LimitWakeSignalled
  split <;> infer_instance

/-- A signalled limit wait finds room. -/
structure SignalInv (cfg : Setup) (s : Device) : Prop extends LimitInv cfg s where
  signalled : ∀ selected, s.requestPc = .waitLimit selected → s.limitSignalled = true →
    s.pendingVector.size < cfg.maxPendingSize

theorem SignalInv.findsRoom {a : Act} {s' : Device} (h : SignalInv cfg s)
    (hok : LimitWakeSignalled a s) (hs : Step cfg s a s') : LimitWakeFindsRoom cfg a s := by
  cases hs with
  | request hs =>
      cases hs with
      | limitTimeout => exact fun hw => absurd rfl hw
      | limitWake hpc hw hsig =>
          rename_i w
          refine fun _ => h.signalled _ hpc (hsig ?_)
          cases w with
          | signal => rfl
          | spurious => exact absurd rfl hok
          | timeout => exact absurd rfl hw
      | getBuffer ha =>
          rcases ha with ⟨rfl, -⟩ | ⟨w, rfl, -⟩ <;> trivial
      | _ => trivial
  | _ => trivial

theorem SignalInv.step {a : Act} (h : SignalInv cfg s) (hok : LimitWakeSignalled a s)
    (hs : Step cfg s a s') : SignalInv cfg s' := by
  have hinv := h.toLimitInv.step (h.findsRoom hok hs) hs
  refine ⟨hinv, ?_⟩
  -- outside the HAL's completion, a wait that is signalled after the step was so before it
  have hkeep : (∀ selected, s'.requestPc = .waitLimit selected → s'.limitSignalled = true →
      s.requestPc = .waitLimit selected ∧ s.limitSignalled = true) →
      s'.pendingVector.size ≤ s.pendingVector.size →
      ∀ selected, s'.requestPc = .waitLimit selected → s'.limitSignalled = true →
        s'.pendingVector.size < cfg.maxPendingSize := by
    intro hpc hsize selected hwait hsig
    obtain ⟨hwait₀, hsig₀⟩ := hpc selected hwait hsig
    exact hsize.trans_lt (h.signalled selected hwait₀ hsig₀)
  cases hs with
  | request hs =>
      cases hs with
      | limitWait hpc hsize => intro _ _ hsig; cases hsig
      | stopMessage | change | changeOverflow | bufferWait | bufferWakeEmpty | submitFreed
      | returnOverflow | unlockFreed | rejectFreed | rejectUnknown =>
          exact hkeep (fun _ hw hsig => ⟨hw, hsig⟩) le_rfl
      | _ => intro _ hwait; cases hwait
  | hal hs =>
      cases hs with
      | countComplete hr hi hc =>
          intro selected hwait hsig
          have hsize := s.pendingVector.size_removeItemsAt ‹_›
          have := h.size_le
          simp only
          omega
      | count hr hi hc =>
          exact hkeep (fun _ hw hsig => ⟨hw, hsig⟩) (KeyedVector.size_editValueAt ..).le
      | _ => exact hkeep (fun _ hw hsig => ⟨hw, hsig⟩) le_rfl
  | result hs =>
      refine hkeep (fun _ hw hsig => ⟨?_, ?_⟩) (hs.frame.pendingVector ▸ le_rfl)
      · exact hs.frame.requestPc ▸ hw
      · exact hs.frame.limitSignalled ▸ hsig
  | encoderReturn ht => exact hkeep (fun _ hw hsig => ⟨hw, hsig⟩) le_rfl
  | stop hs =>
      refine hkeep (fun _ hw hsig => ⟨?_, ?_⟩) ?_
      · exact hs.frame.requestPc ▸ hw
      · exact hs.frame.limitSignalled ▸ hsig
      · cases hs with
        | forcedClear => exact Nat.zero_le _
        | _ => exact le_rfl
  | user hs =>
      refine hkeep (fun _ hw hsig => ⟨?_, ?_⟩) (hs.frame.pendingVector ▸ le_rfl)
      · exact hs.frame.requestPc ▸ hw
      · exact hs.frame.limitSignalled ▸ hsig

theorem signalInv (h : Run cfg LimitWakeSignalled s) : SignalInv cfg s :=
  h.invariant ⟨.init cfg, fun _ hwait => by cases hwait⟩ fun _ _ _ _ hi _ hok hs => hi.step hok hs

/-! ## The limit -/

/-- **The in-flight limit holds in every run in which a limit wait that returns `0` finds room**,
and in every run in which it returns by a signal or a timeout only. -/
theorem size_le_maxPendingSize :
    (Run cfg (LimitWakeFindsRoom cfg) s → s.pendingVector.size ≤ cfg.maxPendingSize) ∧
      (Run cfg LimitWakeSignalled s → s.pendingVector.size ≤ cfg.maxPendingSize) :=
  ⟨fun h => (limitInv h fun _ _ => id).size_le, fun h => (signalInv h).size_le⟩

/-- Five requests; the sixth waits, and gets on when the result of frame `0` has signalled it. -/
def sixRequests : List Act :=
  acceptRequest ++ acceptRequest ++ acceptRequest ++ acceptRequest ++ acceptRequest ++
    [.request .iterate, .request .limit] ++ deliverResult resultZero ++
    [.limitWake .signal, .assemble, .assemble, .settings, .insert].map .request

theorem size_le_after_five_requests :
    ∃ s, Run (previewSetup 6) (LimitWakeFindsRoom (previewSetup 6)) s ∧
      Run (previewSetup 6) LimitWakeSignalled s ∧ s.freed = [0] ∧
      (s.pendingVector.find? 5).isSome = true ∧ s.pendingVector.size = 5 ∧
      s.pendingVector.size ≤ (previewSetup 6).maxPendingSize := by
  obtain ⟨s, hr, hfreed, hsixth, hs⟩ : ∃ s,
      Run (previewSetup 6)
        (fun a s => LimitWakeFindsRoom (previewSetup 6) a s ∧ LimitWakeSignalled a s) s ∧
        s.freed = [0] ∧ (s.pendingVector.find? 5).isSome = true ∧ s.pendingVector.size = 5 :=
    Run.exists_of_exec sixRequests (by decide +kernel)
  have hroom : Run (previewSetup 6) (LimitWakeFindsRoom (previewSetup 6)) s :=
    hr.mono fun _ _ _ _ hok _ => hok.1
  exact ⟨s, hroom, hr.mono fun _ _ _ _ hok _ => hok.2, hfreed, hsixth, hs,
    size_le_maxPendingSize.1 hroom⟩

/-- A spurious wake-up of the limit wait lets a sixth request in. -/
theorem size_gt_of_spurious_wake :
    ¬ ∀ s, Run (previewSetup 6) HalContract s →
      s.pendingVector.size ≤ (previewSetup 6).maxPendingSize := by
  intro h
  obtain ⟨s, hr, hs⟩ : ∃ s, Run (previewSetup 6) HalContract s ∧
      (previewSetup 6).maxPendingSize < s.pendingVector.size :=
    Run.exists_of_exec
      (acceptRequest ++ acceptRequest ++ acceptRequest ++ acceptRequest ++ acceptRequest ++
        [.iterate, .limit, .limitWake .spurious, .assemble, .assemble, .settings, .insert].map
          .request)
      (by decide +kernel)
  exact absurd (h s hr) (not_le.mpr hs)

end Device

end QCamx
