import QCamx.Device.Pending
import QCamx.Device.Stages
import QCamx.Lib.Trace

/-!
# The wait for the pending requests

Once the request thread is joined nothing is added to `_pending_vector`. In a round of its wait loop
`stop_streams` either runs into the time-out, of which it counts five, or wakes by the signal that
`ProcessCaptureResult` sends with the removal of an entry; signals that meet no wait, or meet one
that is signalled already, cost no round.

* `PendingStep`: what a step then does to the vector;
* `drainMeasure`: the rounds that are left;
* **`drain_bounded`**: there are at most five rounds more than entries, and the vector ends up
  empty, each entry removed by the result that completes it or by the clear.
-/

namespace QCamx

open Guarded

namespace Device

variable {cfg : Setup} {s s' : Device}

/-! ## Steps after the join -/

variable (cfg s) in
/-- What a step does to `_pending_vector` once the request thread has returned. -/
inductive PendingStep : Act → Device → Prop
  | other {a : Act} {s' : Device} (ha : ∀ b, a ≠ .stop b)
      (hpend : s'.pendingVector = s.pendingVector) (hpc : s'.stopPc = s.stopPc)
      (hsig : s'.drainSignalled = s.drainSignalled) : PendingStep a s'
  | counted {r : CaptureResult} {i : Fin s.pendingVector.items.length} {s' : Device}
      (hi : s.pendingVector.indexOfKey r.frameNumber = some i)
      (hpend : s'.pendingVector =
        s.pendingVector.editValueAt i (countResult r (s.pendingVector.valueAt i)))
      (hpc : s'.stopPc = s.stopPc) (hsig : s'.drainSignalled = s.drainSignalled) :
      PendingStep (.hal (.count r)) s'
  | completed {r : CaptureResult} {i : Fin s.pendingVector.items.length} {s' : Device}
      (hi : s.pendingVector.indexOfKey r.frameNumber = some i)
      (hc : Complete (countResult r (s.pendingVector.valueAt i)))
      (hpend : s'.pendingVector = s.pendingVector.removeItemsAt i) (hpc : s'.stopPc = s.stopPc)
      (hsig : s'.drainSignalled = s.signalPending.drainSignalled) :
      PendingStep (.hal (.count r)) s'
  | stop {a : StopAct} {s' : Device} (hs : StopStep cfg s a s') : PendingStep (.stop a) s'

theorem HalStep.pending {a : HalAct} (hs : HalStep s a s') : PendingStep cfg s (.hal a) s' := by
  cases hs with
  | countComplete hr hi hc => exact .completed hi hc rfl rfl rfl
  | count hr hi hc => exact .counted hi rfl rfl rfl
  | _ => exact .other (by simp) rfl rfl rfl

theorem ResultStep.drainSignalled {a : ResultAct} (hs : ResultStep cfg s a s') :
    s'.drainSignalled = s.drainSignalled := by
  cases hs with
  | @callback msg b rest effects caseState hpc heff =>
      obtain ⟨managers, encoder, he⟩ := foldl_applyEffect effects s
      rw [he]
  | _ => rfl

theorem UserStep.drainSignalled {a : UserAct} (hs : UserStep cfg s a s') :
    s'.drainSignalled = s.drainSignalled := by
  cases hs <;> rfl

theorem Step.pending {a : Act} (hs : Step cfg s a s') (hexited : s.requestPc = .exited) :
    PendingStep cfg s a s' := by
  cases hs with
  | request hs => exact absurd hexited hs.ne_exited
  | hal hs => exact hs.pending
  | result hs => exact .other (by simp) hs.frame.pendingVector hs.frame.stopPc hs.drainSignalled
  | encoderReturn ht => exact .other (by simp) rfl rfl rfl
  | stop hs => exact .stop hs
  | user hs => exact .other (by simp) hs.frame.pendingVector hs.frame.stopPc hs.drainSignalled

/-- What holds of a device once its request thread is joined. -/
structure Joined (cfg : Setup) (s : Device) : Prop where
  stages : Stages cfg s
  joined : 3 ≤ s.stopPc.stage
  empty : 6 ≤ s.stopPc.stage → s.pendingVector.isEmpty = true

namespace Joined

theorem pendingStep (h : Joined cfg s) {a : Act} (hs : Step cfg s a s') :
    PendingStep cfg s a s' := hs.pending (h.stages.request h.joined)

theorem step {a : Act} (h : Joined cfg s) (hs : Step cfg s a s') : Joined cfg s' := by
  refine ⟨h.stages.step hs, h.joined.trans hs.stage_le, fun hst => ?_⟩
  cases h.pendingStep hs with
  | other ha hpend hpc hsig =>
      rw [hpend]
      exact h.empty (hpc ▸ hst)
  | @counted r i s' hi hpend hpc hsig =>
      -- a result finds its entry, so the vector is not empty
      have hnone := KeyedVector.isEmpty_iff.mp (h.empty (hpc ▸ hst)) r.frameNumber
      rw [KeyedVector.find?_of_indexOfKey hi] at hnone
      cases hnone
  | @completed r i s' hi hc hpend hpc hsig =>
      have hnone := KeyedVector.isEmpty_iff.mp (h.empty (hpc ▸ hst)) r.frameNumber
      rw [KeyedVector.find?_of_indexOfKey hi] at hnone
      cases hnone
  | stop hs =>
      cases hs with
      | drained hpc hempty => exact hempty
      | forcedClear hpc hempty => rfl
      | delete hpc => exact h.empty (by simp [hpc])
      | begin | postRequest | joinRequest | postResult | joinResult | drainWait | timeout | wake =>
          simp at hst

end Joined

/-! ## The rounds of the wait loop -/

/-- `stop_streams` enters the wait. -/
def drainRound : Act → Device → Bool
  | .stop .drain, s =>
      match s.stopPc with
      | .drain tryCount => !s.pendingVector.isEmpty && decide (0 < tryCount)
      | _ => false
  | _, _ => false

/-- The wait of `stop_streams` returns `0` only after a signal. -/
def DrainSignalled (a : Act) (_ : Device) : Prop := a ≠ .stop (.wake .spurious)

instance (a : Act) (s : Device) : Decidable (DrainSignalled a s) := by
  unfold DrainSignalled; infer_instance

/-- The rounds that are left: one for each entry and each try. A round that has begun is paid for,
and a signal that meets it pays for the next one, with the entry whose removal sent it. -/
def drainMeasure (s : Device) : ℕ :=
  match s.stopPc with
  | .drain tryCount => s.pendingVector.size + tryCount
  | .waitPending tryCount =>
      s.pendingVector.size + if s.drainSignalled then tryCount else tryCount - 1
  | .delete | .stopped => 0
  | _ => s.pendingVector.size + 5

theorem drainRound_eq_false {a : Act} (ha : ∀ b, a ≠ .stop b) (s : Device) :
    drainRound a s = false := by
  cases a with
  | stop b => exact absurd rfl (ha b)
  | request a | hal a | result a | encoderReturn t | user a => rfl

theorem drainMeasure_stop {a : StopAct} (hs : StopStep cfg s a s')
    (hok : DrainSignalled (.stop a) s) :
    drainMeasure s' + (if drainRound (.stop a) s then 1 else 0) ≤ drainMeasure s := by
  cases hs with
  | begin hpc | postRequest hpc | joinRequest hpc | postResult hpc | joinResult hpc =>
      simp [drainMeasure, drainRound, hpc]
  | drained hpc hempty => simp [drainMeasure, drainRound, hempty, hpc]
  | drainWait hpc hempty htry =>
      simp only [drainMeasure, drainRound, hpc, hempty, htry, decide_true, Bool.not_false,
        Bool.and_self, if_true, Bool.false_eq_true, if_false]
      omega
  | forcedClear hpc hempty => simp [drainMeasure, drainRound, hpc]
  | timeout hpc =>
      simp only [drainMeasure, drainRound, hpc, Bool.false_eq_true, if_false]
      split_ifs <;> omega
  | @wake tryCount w hpc hw hsig =>
      have hsignal : w = .signal := by
        cases w with
        | signal => rfl
        | timeout => exact absurd rfl hw
        | spurious => exact absurd rfl hok
      simp [drainMeasure, drainRound, hpc, hsig hsignal]
  | delete hpc => simp [drainMeasure, drainRound, hpc]

theorem drainMeasure_step {a : Act} (h : Joined cfg s) (hs : Step cfg s a s')
    (hok : DrainSignalled a s) :
    drainMeasure s' + (if drainRound a s then 1 else 0) ≤ drainMeasure s := by
  cases h.pendingStep hs with
  | other ha hpend hpc hsig =>
      rw [drainRound_eq_false ha s, drainMeasure, drainMeasure, hpend, hpc, hsig]
      simp
  | counted hi hpend hpc hsig =>
      rw [drainRound_eq_false (by simp) s, drainMeasure, drainMeasure, hpend, hpc, hsig,
        KeyedVector.size_editValueAt]
      simp
  | @completed r i s' hi hc hpend hpc hsig =>
      have hsize := KeyedVector.size_removeItemsAt i
      rw [drainRound_eq_false (by simp) s, drainMeasure, drainMeasure, hpend, hpc, hsig]
      cases hstop : s.stopPc with
      | waitPending tryCount =>
          simp only [signalPending, hstop, if_true, Bool.false_eq_true, if_false]
          split_ifs <;> omega
      | running | postRequest | joinRequest | postResult | joinResult | drain | delete | stopped =>
          simp only [Bool.false_eq_true, if_false]
          omega
  | stop hs => exact drainMeasure_stop hs hok

/-! ## The entries -/

/-- The step removes the entry of frame `n`: it counts the result that completes it, or
`stop_streams` gives up waiting. -/
def RemovesPending (n : ℕ) (a : Act) (s : Device) : Prop :=
  (∃ r pend, a = .hal (.count r) ∧ r.frameNumber = n ∧ s.pendingVector.find? n = some pend ∧
    Complete (countResult r pend)) ∨ ForcesClear a s

theorem Joined.removesPending (h : Joined cfg s) {a : Act} (hs : Step cfg s a s') {n : ℕ}
    (hn : s.pendingVector.find? n ≠ none) (hn' : s'.pendingVector.find? n = none) :
    RemovesPending n a s := by
  cases h.pendingStep hs with
  | other ha hpend hpc hsig =>
      rw [hpend] at hn'
      exact absurd hn' hn
  | counted hi hpend hpc hsig =>
      rw [hpend, KeyedVector.find?_editValueAt hi] at hn'
      split_ifs at hn'
      exact absurd hn' hn
  | @completed r i s' hi hc hpend hpc hsig =>
      rw [hpend, KeyedVector.find?_removeItemsAt hi] at hn'
      split_ifs at hn' with heq
      · subst heq
        exact .inl ⟨r, _, rfl, rfl, KeyedVector.find?_of_indexOfKey hi, hc⟩
      · exact absurd hn' hn
  | stop hs =>
      cases hs with
      | forcedClear hpc hempty => exact .inr ⟨rfl, hpc, hempty⟩
      | begin | postRequest | joinRequest | postResult | joinResult | drained | drainWait | timeout
      | wake | delete => exact absurd hn' hn

/-- **The wait loop of `stop_streams` makes at most five rounds more than there are entries when the
request thread is joined. When it is left the vector is empty, and each entry was removed by the
result that completes it or by the clear.** -/
theorem drain_bounded {acts : List Act} {s₀ : Device} (h₀ : Run cfg (fun _ _ => True) s₀)
    (hjoined : s₀.stopPc = .postResult ∨ s₀.stopPc = .joinResult ∨ s₀.stopPc = .drain 5)
    (h : exec (step cfg) DrainSignalled acts s₀ = some s) :
    countAlong (step cfg) drainRound acts s₀ ≤ s₀.pendingVector.size + 5 ∧
      (6 ≤ s.stopPc.stage → s.pendingVector.isEmpty = true ∧
        ∀ n, s₀.pendingVector.find? n ≠ none → ∃ pre a post t, acts = pre ++ a :: post ∧
          exec (step cfg) DrainSignalled pre s₀ = some t ∧ RemovesPending n a t) := by
  have hmeasure : drainMeasure s₀ = s₀.pendingVector.size + 5 := by
    rcases hjoined with hpc | hpc | hpc <;> rw [drainMeasure, hpc]
  have hinit : Joined cfg s₀ := by
    refine ⟨stages h₀, ?_, fun hst => ?_⟩
    · rcases hjoined with hpc | hpc | hpc <;> simp [hpc]
    · rcases hjoined with hpc | hpc | hpc <;> simp [hpc] at hst
  have hinv : ∀ a t t', Joined cfg t → DrainSignalled a t → step cfg a t = some t' →
      Joined cfg t' := fun _ _ _ ht _ hstep => ht.step (Step.of_eq hstep).2
  constructor
  · have hcount := countAlong_add_le (p := drainRound) hinv
      (fun _ _ _ ht hok hstep => drainMeasure_step ht (Step.of_eq hstep).2 hok) h hinit
    omega
  · intro hst
    have hempty := ((Reachable.of_exec h).invariant hinit
      fun t a t' _ ht hok hstep => hinv a t t' ht hok hstep).empty hst
    refine ⟨hempty, fun n hn => ?_⟩
    have hnone := KeyedVector.isEmpty_iff.mp hempty n
    obtain ⟨pre, a, post, t, t', hacts, hpre, hok, hstep, -, hpresent, hlost⟩ :=
      exists_step_of_lost (P := fun t => t.pendingVector.find? n ≠ none) h hn (not_not.mpr hnone)
    have ht := (Reachable.of_exec hpre).invariant hinit
      fun t a t' _ ht hok hstep => hinv a t t' ht hok hstep
    exact ⟨pre, a, post, t, hacts, hpre,
      ht.removesPending (Step.of_eq hstep).2 hpresent (not_not.mp hlost)⟩

/-- One time-out, then the result of the only frame. -/
theorem drained_by_result :
    ∃ s₀ s, ∃ acts : List Act, Run (previewSetup 2) (fun _ _ => True) s₀ ∧
      s₀.pendingVector.size = 1 ∧ exec (step (previewSetup 2)) DrainSignalled acts s₀ = some s ∧
      s.stopPc = .delete ∧ s.pendingVector.isEmpty = true ∧
      countAlong (step (previewSetup 2)) drainRound acts s₀ ≤ 6 := by
  obtain ⟨s₀, hr, hpc, hsize, hexec⟩ :
      ∃ s₀, Run (previewSetup 2) (fun _ _ => True) s₀ ∧ s₀.stopPc = .postResult ∧
        s₀.pendingVector.size = 1 ∧
        (exec (step (previewSetup 2)) DrainSignalled
          ([.stop .postResult, .result .take, .stop .joinResult, .stop .drain,
            .stop (.wake .timeout), .stop .drain] ++ deliverResult resultZero ++
            [.stop (.wake .signal), .stop .drain]) s₀).any
          (fun s => decide (s.stopPc = .delete)) = true :=
    Run.exists_of_exec
      (acceptRequest ++ [.stop .begin, .stop .postRequest, .request .iterate, .request .iterate,
        .stop .joinRequest]) (by decide +kernel)
  obtain ⟨s, hs, hst⟩ := (Option.any_eq_true _ _).mp hexec
  obtain ⟨hcount, hend⟩ := drain_bounded hr (.inl hpc) hs
  have hst := of_decide_eq_true hst
  exact ⟨s₀, s, _, hr, hsize, hs, hst, (hend (by simp [hst])).1, by omega⟩

end Device

end QCamx
