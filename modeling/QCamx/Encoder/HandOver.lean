import QCamx.Encoder.Cases

/-!
# The hand-over of frames to the encoder

A frame passed to `EnqueueFrameBuffer` waits in `mBufferQueue` until `Read` or the drain of `stop`
returns its buffer. The result thread tests `_stop` and pushes later, so the queue may be deleted in
between; the video-only case deletes the buffer manager under a running encoder.

* `outstanding`: the buffers handed over and not returned;
* `custody`: in every run each buffer handed over is returned once or outstanding;
* `HandOverDone`: no push is under way when the queue goes, and the video-only case begins to stop
  when nothing is outstanding;
* **`hand_over_survives_stop`**: runs that keep to it, and what becomes of the others.
-/

namespace QCamx

/-- The frame in the hands of the in-flight thread. -/
def InFlightPc.frame : InFlightPc → Option Buffer
  | copy _ b => some b
  | top | read _ | waitFrame _ | submit _ | exited => none

/-- The frame in the hands of the drain. -/
def VideoStopPc.frame : VideoStopPc → Option Buffer
  | giveBack b => some b
  | running | flush | postExit | joinInFlight | drain | joinResult | delete | stopped => none

namespace Encoder

variable {cfg : EncoderSetup} {s s' : Encoder}

/-- The frames in `mBufferQueue`. -/
def queued (s : Encoder) : List Buffer := s.bufferQueue.getD []

/-- The buffers handed over and not yet returned. -/
def outstanding (s : Encoder) : List Buffer :=
  s.queued ++ s.inFlightPc.frame.toList ++ s.stopPc.frame.toList

/-! ## Custody -/

/-- Each buffer handed over is returned once or outstanding. -/
def Custody (s : Encoder) : Prop := s.enqueued.Perm (s.returned ++ s.outstanding)

theorem Custody.congr (h : Custody s) (henqueued : s'.enqueued = s.enqueued)
    (hreturned : s'.returned = s.returned) (hqueued : s'.queued = s.queued)
    (hpc : s'.inFlightPc.frame = s.inFlightPc.frame) (hstop : s'.stopPc.frame = s.stopPc.frame) :
    Custody s' := by
  rw [Custody, outstanding, henqueued, hreturned, hqueued, hpc, hstop]
  exact h

theorem Custody.inFlight {a : InFlightAct} (h : Custody s) (hs : InFlightStep cfg s a s') :
    Custody s' := by
  cases hs with
  | takeRead hpc | takeExit hpc | nullBuffer hpc | readExit hpc | timeout hpc | accept hpc
  | reject hpc => exact h.congr rfl rfl rfl (by simp [hpc, InFlightPc.frame]) rfl
  | deletedQueue | deletedManager => exact h.congr rfl rfl rfl rfl rfl
  | waitFrame hseeks =>
      refine h.congr rfl rfl rfl ?_ rfl
      obtain ⟨-, hpc, -⟩ | ⟨w, -, hpc, -⟩ := hseeks <;> simp [hpc, InFlightPc.frame]
  | @popFrame x b q a hseeks hqueue =>
      have hnone : s.inFlightPc.frame = none := by
        obtain ⟨-, hpc, -⟩ | ⟨w, -, hpc, -⟩ := hseeks <;> (rw [hpc]; rfl)
      have hqueued : s.queued = b :: q := by
        rw [queued, hqueue]
        rfl
      refine h.trans (List.Perm.append_left _ ?_)
      rw [outstanding, hqueued, hnone]
      simp only [outstanding, queued, InFlightPc.frame, Option.getD_some, Option.toList_some,
        Option.toList_none, List.append_nil, List.append_assoc, List.singleton_append]
      exact List.perm_middle.symm
  | @copy x b hpc hdeleted =>
      refine h.trans ?_
      rw [outstanding, hpc]
      simp only [outstanding, queued, InFlightPc.frame, Option.toList_some, Option.toList_none,
        List.append_nil, List.append_assoc, List.singleton_append]
      exact List.Perm.append_left _ List.perm_middle

theorem Custody.stop {a : VideoStopAct} (h : Custody s) (hs : StopStep cfg s a s') :
    Custody s' := by
  cases hs with
  | beginVideoOnly hpc | begin hpc | flush hpc | postExit hpc | joinInFlight hpc | joinResult hpc
  | delete hpc => exact h.congr rfl rfl rfl rfl (by simp [hpc, VideoStopPc.frame])
  | @drain b q hpc hqueue =>
      have hqueued : s.queued = b :: q := by
        rw [queued, hqueue]
        rfl
      refine h.trans (List.Perm.append_left _ ?_)
      rw [outstanding, hqueued, hpc]
      simp only [outstanding, queued, VideoStopPc.frame, Option.getD_some, Option.toList_some,
        Option.toList_none, List.append_nil]
      rw [List.cons_append]
      exact (List.perm_append_singleton b _).symm
  | deleteQueue hpc hqueue =>
      exact h.congr rfl rfl (by simp [queued, hqueue]) rfl (by simp [hpc, VideoStopPc.frame])
  | @giveBack b hpc =>
      refine h.trans ?_
      rw [outstanding, hpc]
      simp only [outstanding, queued, VideoStopPc.frame, Option.toList_some, Option.toList_none,
        List.append_nil, List.append_assoc, List.singleton_append]
      refine List.Perm.append_left _ ?_
      rw [← List.append_assoc]
      exact List.perm_append_singleton b _

theorem Custody.step {a : EncoderAct} (h : Custody s) (hs : Step cfg s a s') : Custody s' := by
  cases hs with
  | start | emptyDone => exact h.congr rfl rfl rfl rfl rfl
  | inFlight hs => exact h.inFlight hs
  | result hs =>
      cases hs with
      | returnBuffer | deliver | deletedQueue | exit => exact h.congr rfl rfl rfl rfl rfl
      | @push b q signalled hpc hqueue =>
          have hqueued : s.queued = q := by
            rw [queued, hqueue]
            rfl
          have hnew : (s.enqueued ++ [b]).Perm (s.returned ++ s.outstanding ++ [b]) :=
            List.Perm.append_right _ h
          refine hnew.trans ?_
          rw [outstanding, hqueued]
          simp only [outstanding, queued, Option.getD_some, List.append_assoc]
          refine List.Perm.append_left _ (List.Perm.append_left _ ?_)
          rw [← List.append_assoc]
          exact List.perm_append_comm
  | stop hs => exact h.stop hs

/-- **Each buffer handed over is returned once or outstanding**, in every run. -/
theorem custody {ok : EncoderAct → Encoder → Prop} (h : Run cfg ok s) : Custody s :=
  h.invariant (List.Perm.refl _) fun _ _ _ hi _ _ hs => hi.step hs

/-! ## Stop -/

/-- The preview-video case deletes the queue with no push under way. The video-only case begins to
stop when nothing is outstanding or about to be, and then gets no more frames. -/
def HandOverDone (cfg : EncoderSetup) : EncoderAct → Encoder → Prop
  | .stop .drain, s => s.bufferQueue = some [] → s.resultPc = .idle
  | .stop .begin, s => cfg.videoOnly = true → s.outstanding = [] ∧ s.resultPc = .idle
  | .result (.deliver _), s => cfg.videoOnly = true → s.stopPc = .running
  | _, _ => True

/-- What the hand-over relies on in a run that keeps to `HandOverDone`. -/
structure HandOverInv (cfg : EncoderSetup) (s : Encoder) : Prop where
  push : s.bufferQueue = none → ∀ b, s.resultPc ≠ .enqueue b
  stopped : cfg.videoOnly = true → s.stopPc ≠ .running →
    s.outstanding = [] ∧ ∀ b, s.resultPc ≠ .enqueue b
  deleted : s.managerDeleted = true → s.outstanding = []
  fault : s.fault = none

namespace HandOverInv

theorem congr (h : HandOverInv cfg s)
    (hqueue : s'.bufferQueue = none → s.bufferQueue = none)
    (hresult : s'.resultPc = s.resultPc)
    (hstop : cfg.videoOnly = true → s'.stopPc ≠ .running → s.stopPc ≠ .running)
    (hdeleted : s'.managerDeleted = true → s.managerDeleted = true)
    (houtstanding : s'.outstanding = s.outstanding) (hfault : s'.fault = s.fault) :
    HandOverInv cfg s' where
  push hnone b := by
    rw [hresult]
    exact h.push (hqueue hnone) b
  stopped hv hpc := by
    rw [houtstanding, hresult]
    exact h.stopped hv (hstop hv hpc)
  deleted hd := houtstanding.trans (h.deleted (hdeleted hd))
  fault := hfault.trans h.fault

theorem inFlight {a : InFlightAct} (h : HandOverInv cfg s) (hst : Stages cfg s)
    (hs : InFlightStep cfg s a s') : HandOverInv cfg s' := by
  cases hs with
  | takeRead hpc | takeExit hpc | nullBuffer hpc | readExit hpc | timeout hpc | accept hpc
  | reject hpc =>
      refine h.congr id rfl (fun _ => id) id ?_ rfl
      simp [outstanding, queued, hpc, InFlightPc.frame]
  | deletedQueue hpc hqueue =>
      -- the queue is deleted after the in-flight thread has returned
      obtain ⟨hv, hle⟩ := hst.queue.mp hqueue
      have hexited := hst.inFlight hv (by omega)
      rw [hpc] at hexited
      cases hexited
  | waitFrame hseeks =>
      refine h.congr id rfl (fun _ => id) id ?_ rfl
      obtain ⟨-, hpc, -⟩ | ⟨w, -, hpc, -⟩ := hseeks <;>
        simp [outstanding, queued, hpc, InFlightPc.frame]
  | @popFrame x b q a hseeks hqueue =>
      have hfull : s.outstanding ≠ [] := by simp [outstanding, queued, hqueue]
      exact ⟨fun hnone => (by cases hnone), fun hv hpc => absurd (h.stopped hv hpc).1 hfull,
        fun hd => absurd (h.deleted hd) hfull, h.fault⟩
  | @deletedManager x b hpc hdeleted =>
      have hempty := h.deleted hdeleted
      simp [outstanding, hpc, InFlightPc.frame] at hempty
  | @copy x b hpc hdeleted =>
      have hfull : s.outstanding ≠ [] := by simp [outstanding, hpc, InFlightPc.frame]
      exact ⟨h.push, fun hv hpc => absurd (h.stopped hv hpc).1 hfull,
        fun hd => absurd (h.deleted hd) hfull, h.fault⟩

theorem result {a : VideoResultAct} (h : HandOverInv cfg s) (hst : Stages cfg s)
    (hok : HandOverDone cfg (.result a) s) (hs : ResultStep s a s') : HandOverInv cfg s' := by
  cases hs with
  | returnBuffer => exact h
  | deliver hpc hstop =>
      refine ⟨fun hnone b => ?_, fun hv hpc => absurd (hok hv) hpc, h.deleted, h.fault⟩
      -- the queue is deleted after `_stop` was set
      obtain ⟨hv, hle⟩ := hst.queue.mp hnone
      have hset := hst.stop.mpr ⟨hv, by omega⟩
      rw [hstop] at hset
      cases hset
  | deletedQueue hpc hqueue => exact absurd hpc (h.push hqueue _)
  | push signalled hpc hqueue =>
      refine ⟨fun hnone => (by cases hnone), fun hv hstop => ?_, fun hd => ?_, h.fault⟩
      · exact absurd hpc ((h.stopped hv hstop).2 _)
      · have hstage := hst.manager.mp hd
        have hexited := hst.result (by omega)
        rw [hpc] at hexited
        cases hexited
  | exit hpc hstop =>
      refine ⟨fun _ b hb => ?_, fun hv hstop => ⟨(h.stopped hv hstop).1, fun b hb => ?_⟩, h.deleted,
        h.fault⟩ <;> cases hb

theorem stop {a : VideoStopAct} (h : HandOverInv cfg s) (hst : Stages cfg s)
    (hok : HandOverDone cfg (.stop a) s) (hs : StopStep cfg s a s') : HandOverInv cfg s' := by
  have hnot : stage s.stopPc ≠ 7 → s.managerDeleted ≠ true := fun hne hd => hne (hst.manager.mp hd)
  have hnotVideo : stage s.stopPc ≠ 0 → stage s.stopPc < 5 → cfg.videoOnly ≠ true := by
    intro hne hlt hv
    rcases hst.videoOnly hv with hzero | hle
    · exact hne hzero
    · omega
  cases hs with
  | beginVideoOnly hpc hvideo =>
      obtain ⟨hempty, hidle⟩ := hok hvideo
      have hempty' : outstanding { s with stopPc := .joinResult } = [] := by
        simpa [outstanding, queued, hpc, VideoStopPc.frame] using hempty
      refine ⟨h.push, fun _ _ => ⟨hempty', fun b hb => ?_⟩, fun _ => hempty', h.fault⟩
      rw [show s.resultPc = .enqueue b from hb] at hidle
      cases hidle
  | begin hpc hvideo =>
      refine h.congr id rfl (fun hv => ?_) id ?_ rfl
      · rw [hvideo] at hv
        cases hv
      · simp [outstanding, queued, hpc, VideoStopPc.frame]
  | flush hpc | postExit hpc | joinInFlight hpc | joinResult hpc =>
      refine h.congr id rfl (fun _ _ => by simp [hpc]) id ?_ rfl
      simp [outstanding, queued, hpc, VideoStopPc.frame]
  | @drain b q hpc hqueue =>
      exact ⟨fun hnone => (by cases hnone),
        fun hv => absurd hv (hnotVideo (by simp [hpc]) (by simp [hpc])),
        fun hd => absurd hd (hnot (by simp [hpc])), h.fault⟩
  | deleteQueue hpc hqueue =>
      refine ⟨fun _ b hb => ?_, fun hv => absurd hv (hnotVideo (by simp [hpc]) (by simp [hpc])),
        fun hd => absurd hd (hnot (by simp [hpc])), h.fault⟩
      have hidle := hok hqueue
      rw [hidle] at hb
      cases hb
  | @giveBack b hpc =>
      exact ⟨h.push, fun hv => absurd hv (hnotVideo (by simp [hpc]) (by simp [hpc])),
        fun hd => absurd hd (hnot (by simp [hpc])), h.fault⟩
  | delete hpc =>
      have hempty : outstanding { s with managerDeleted := true, stopPc := .stopped } = [] := by
        have hle : 5 ≤ stage s.stopPc := by
          rw [hpc]
          decide
        cases hv : cfg.videoOnly with
        | true =>
            have hempty := (h.stopped hv (by simp [hpc])).1
            simpa [outstanding, queued, hpc, VideoStopPc.frame] using hempty
        | false =>
            have hqueue := hst.queue.mpr ⟨hv, hle⟩
            have hexited := hst.inFlight hv (by omega)
            simp [outstanding, queued, hqueue, hexited, InFlightPc.frame, VideoStopPc.frame]
      exact ⟨h.push, fun hv _ => ⟨hempty, (h.stopped hv (by simp [hpc])).2⟩, fun _ => hempty,
        h.fault⟩

theorem step {a : EncoderAct} (h : HandOverInv cfg s) (hst : Stages cfg s)
    (hok : HandOverDone cfg a s) (hs : Step cfg s a s') : HandOverInv cfg s' := by
  cases hs with
  | start | emptyDone => exact h.congr id rfl (fun _ => id) id rfl rfl
  | inFlight hs => exact h.inFlight hst hs
  | result hs => exact h.result hst hok hs
  | stop hs => exact h.stop hst hok hs

end HandOverInv

/-! ## Runs that do not keep to it -/

section Lost

variable {ok : EncoderAct → Encoder → Prop}

theorem exists_unreturned_of_exited (hr : Run cfg ok s) (hpc : s.stopPc = .joinResult)
    (hfault : s.fault = none) (hexited : s.resultPc = .exited) (hout : s.outstanding ≠ []) :
    ∃ u, Guarded.Reachable (step cfg) (fun _ _ => True) s u ∧ u.managerDeleted = true ∧
      ¬ u.enqueued.Perm u.returned := by
  let u : Encoder := { s with managerDeleted := true, stopPc := .stopped }
  have hjoin : step cfg (.stop .joinResult) s = some { s with stopPc := .delete } := by
    simp [step, stopStep, hfault, hpc, hexited]
  have hdelete : step cfg (.stop .delete) { s with stopPc := .delete } = some u := by
    simp [step, stopStep, hfault, u]
  refine ⟨u, (Guarded.Reachable.refl.tail trivial hjoin).tail trivial hdelete, rfl, fun hperm => ?_⟩
  have hlength := (custody hr).length_eq.symm.trans hperm.length_eq
  have hpos := List.length_pos_iff.mpr hout
  rw [List.length_append] at hlength
  change _ = s.returned.length at hlength
  omega

/-- A frame that is outstanding when the video-only case stops need not be returned. -/
theorem exists_unreturned (hr : Run cfg (fun _ _ => True) s) (hv : cfg.videoOnly = true)
    (hpc : s.stopPc = .joinResult) (hfault : s.fault = none)
    (hout : s.outstanding ≠ [] ∨ ∃ b, s.resultPc = .enqueue b) :
    ∃ u, Guarded.Reachable (step cfg) (fun _ _ => True) s u ∧ u.managerDeleted = true ∧
      ¬ u.enqueued.Perm u.returned := by
  have hexit : ∀ {t : Encoder}, Run cfg (fun _ _ => True) t → t.stopPc = .joinResult →
      t.fault = none → t.resultPc = .idle → t.outstanding ≠ [] →
      ∃ u, Guarded.Reachable (step cfg) (fun _ _ => True) t u ∧ u.managerDeleted = true ∧
        ¬ u.enqueued.Perm u.returned := by
    intro t hrun hstop hnone hidle hfull
    have hstep : step cfg (.result .exit) t = some { t with resultPc := .exited } := by
      simp [step, Encoder.result, hnone, hstop, hidle]
    obtain ⟨u, hu, hlost⟩ := exists_unreturned_of_exited (hrun.tail trivial hstep) hstop hnone rfl
      hfull
    exact ⟨u, (Guarded.Reachable.refl.tail trivial hstep).trans hu, hlost⟩
  cases hresult : s.resultPc with
  | idle => exact hexit hr hpc hfault hresult (hout.resolve_right (by simp [hresult]))
  | exited =>
      exact exists_unreturned_of_exited hr hpc hfault hresult
        (hout.resolve_right (by simp [hresult]))
  | enqueue b =>
      obtain ⟨q, hqueue⟩ : ∃ q, s.bufferQueue = some q := by
        refine Option.ne_none_iff_exists'.mp fun hnone => ?_
        rw [((stages hr).queue.mp hnone).1] at hv
        cases hv
      obtain ⟨t, hstep⟩ : ∃ t, step cfg (.result .push) s = some t :=
        Option.isSome_iff_exists.mp (by simp [step, Encoder.result, hfault, hresult, hqueue])
      obtain ⟨hstop, hnone, hidle, hfull⟩ : t.stopPc = .joinResult ∧ t.fault = none ∧
          t.resultPc = .idle ∧ t.outstanding ≠ [] := by
        cases (Step.of_eq hstep).2 with
        | result hs =>
            cases hs with
            | deletedQueue _ hnone =>
                rw [hqueue] at hnone
                cases hnone
            | push => exact ⟨hpc, hfault, rfl, by simp [outstanding, queued]⟩
      obtain ⟨u, hu, hlost⟩ := hexit (hr.tail trivial hstep) hstop hnone hidle hfull
      exact ⟨u, (Guarded.Reachable.refl.tail trivial hstep).trans hu, hlost⟩

/-- Before its join a busy result thread is about to push a frame. -/
theorem exists_enqueue_of_busy (hst : Stages cfg s) (hstage : stage s.stopPc < 5)
    (hbusy : s.resultPc ≠ .idle) : ∃ b, s.resultPc = .enqueue b := by
  cases hresult : s.resultPc with
  | idle => exact absurd hresult hbusy
  | enqueue b => exact ⟨b, rfl⟩
  | exited =>
      have hle := hst.exited hresult
      omega

/-- The video-only case that stops waits for its result thread as long as that has not returned. -/
theorem joinResult_of_idle (hst : Stages cfg s) (hv : cfg.videoOnly = true)
    (hstopping : s.stopPc ≠ .running) (hidle : s.resultPc = .idle) : s.stopPc = .joinResult := by
  have hlt : stage s.stopPc < 6 := by
    by_contra hge
    rw [hst.result (not_lt.mp hge)] at hidle
    cases hidle
  have hle : 5 ≤ stage s.stopPc := (hst.videoOnly hv).resolve_left fun hzero => by
    cases hpc : s.stopPc <;> simp_all
  cases hpc : s.stopPc with
  | joinResult => rfl
  | running | flush | postExit | joinInFlight | drain | giveBack | delete | stopped =>
      rw [hpc] at hlt hle
      simp at hlt hle

/-- **A step that does not keep to `HandOverDone`** lets a frame be lost, or the result thread come
to the deleted queue. -/
theorem exists_lost {a : EncoderAct} (hr : Run cfg (fun _ _ => True) s)
    (hs : step cfg a s = some s') (hnot : ¬ HandOverDone cfg a s) :
    ∃ u, Guarded.Reachable (step cfg) (fun _ _ => True) s' u ∧
      (u.fault = some .deletedQueue ∨
        u.managerDeleted = true ∧ ¬ u.enqueued.Perm u.returned) := by
  have hst := stages hr
  have hr' := hr.tail trivial hs
  obtain ⟨hfault, hstep⟩ := Step.of_eq hs
  cases hstep with
  | start | emptyDone | inFlight => exact absurd trivial hnot
  | result hs =>
      cases hs with
      | @deliver b hpc hstop =>
          obtain ⟨hv, hstopping⟩ := not_forall.mp hnot
          have hjoin : s.stopPc = .joinResult := joinResult_of_idle hst hv hstopping hpc
          obtain ⟨u, hu, hlost⟩ := exists_unreturned hr' hv hjoin hfault (.inr ⟨b, rfl⟩)
          exact ⟨u, hu, .inr hlost⟩
      | @returnBuffer b hpc hstop =>
          obtain ⟨hv, -⟩ := not_forall.mp hnot
          rw [(hst.stop.mp hstop).1] at hv
          cases hv
      | deletedQueue | push | exit => exact absurd trivial hnot
  | stop hs =>
      cases hs with
      | beginVideoOnly hpc hvideo =>
          have hlost := not_forall.mp hnot
          have hout : outstanding { s with stopPc := .joinResult } ≠ [] ∨
              ∃ b, s.resultPc = .enqueue b := by
            obtain ⟨-, hlost⟩ := hlost
            rw [not_and_or] at hlost
            refine hlost.imp (fun hfull => ?_) fun hbusy => ?_
            · simpa [outstanding, queued, hpc, VideoStopPc.frame] using hfull
            · exact exists_enqueue_of_busy hst (by simp [hpc]) hbusy
          obtain ⟨u, hu, hlost⟩ := exists_unreturned hr' hvideo rfl hfault hout
          exact ⟨u, hu, .inr hlost⟩
      | begin hpc hvideo =>
          obtain ⟨hv, -⟩ := not_forall.mp hnot
          rw [hvideo] at hv
          cases hv
      | deleteQueue hpc hqueue =>
          have hbusy := fun h => hnot fun _ => h
          obtain ⟨b, hresult⟩ := exists_enqueue_of_busy hst (by simp [hpc]) hbusy
          refine ⟨fail .deletedQueue { s with bufferQueue := none, stopPc := .joinResult },
            Guarded.Reachable.refl.tail (a := .result .push) trivial ?_, .inl rfl⟩
          simp [step, Encoder.result, hfault, hresult]
      | drain hpc hqueue => exact absurd (fun h => by rw [hqueue] at h; cases h) hnot
      | flush | postExit | joinInFlight | giveBack | joinResult | delete =>
          exact absurd trivial hnot

end Lost

/-- **The hand-over survives `stop`**: nothing touches the deleted queue or manager, each buffer
handed over is returned once or outstanding, and none is outstanding once the manager is deleted.
Any step that does not keep to the condition can be followed by a loss. -/
theorem hand_over_survives_stop (h : Run cfg (HandOverDone cfg) s) :
    s.fault = none ∧ s.enqueued.Perm (s.returned ++ s.outstanding) ∧
      (s.managerDeleted = true → s.enqueued.Perm s.returned) ∧
      ∀ a t t', Run cfg (fun _ _ => True) t → step cfg a t = some t' → ¬ HandOverDone cfg a t →
        ∃ u, Guarded.Reachable (step cfg) (fun _ _ => True) t' u ∧
          (u.fault = some .deletedQueue ∨
            u.managerDeleted = true ∧ ¬ u.enqueued.Perm u.returned) := by
  have hinv : HandOverInv cfg s := by
    have hboth : Stages cfg s ∧ HandOverInv cfg s := by
      refine Run.invariant (P := fun s => Stages cfg s ∧ HandOverInv cfg s) h ?_ ?_
      · exact ⟨.init cfg, ⟨fun hnone => (by cases hnone), fun _ hpc => absurd rfl hpc,
          fun hd => (by cases hd), rfl⟩⟩
      · intro s a s' hi _ hok hs
        exact ⟨hi.1.step hs, hi.2.step hi.1 hok hs⟩
    exact hboth.2
  have hcustody := custody h
  refine ⟨hinv.fault, hcustody, fun hd => ?_, fun _ _ _ hr hs hnot => exists_lost hr hs hnot⟩
  rw [Custody, hinv.deleted hd, List.append_nil] at hcustody
  exact hcustody

/-! ## One frame -/

instance (cfg : EncoderSetup) : ∀ (a : EncoderAct) (s : Encoder), Decidable (HandOverDone cfg a s)
  | .stop .drain, s => inferInstanceAs (Decidable (s.bufferQueue = some [] → s.resultPc = .idle))
  | .stop .begin, s => inferInstanceAs (Decidable (cfg.videoOnly = true →
      s.outstanding = [] ∧ s.resultPc = .idle))
  | .result (.deliver _), s => inferInstanceAs (Decidable (cfg.videoOnly = true →
      s.stopPc = .running))
  | .stop .flush, _ | .stop .postExit, _ | .stop .joinInFlight, _ | .stop .giveBack, _
  | .stop .joinResult, _ | .stop .delete, _ | .start, _ | .inFlight _, _ | .emptyDone _, _
  | .result .push, _ | .result .exit, _ => isTrue trivial

/-- The steps by which the preview-video case stops its encoder, whose queue has `n` frames. -/
def stopEncoder (n : ℕ) : List EncoderAct :=
  [.stop .begin, .stop .flush, .stop .postExit, .inFlight .take, .stop .joinInFlight] ++
    (List.replicate n [.stop .drain, .stop .giveBack]).flatten ++ [.stop .drain]

/-- A frame that the drain returns, and one that the video-only case has read before it stops. -/
theorem drained_frame_returned :
    (∃ s, Run (oneHeader false) (HandOverDone (oneHeader false)) s ∧ s.enqueued = [7] ∧
      s.enqueued.Perm s.returned) ∧
    ∃ s, Run (oneHeader true) (HandOverDone (oneHeader true)) s ∧ s.enqueued = [7] ∧
      s.enqueued.Perm s.returned := by
  constructor
  · obtain ⟨s, hr, henqueued, hdeleted⟩ :
        ∃ s, Run (oneHeader false) (HandOverDone (oneHeader false)) s ∧ s.enqueued = [7] ∧
          s.managerDeleted = true :=
      Guarded.Reachable.exists_of_exec
        ([.start, .result (.deliver 7), .result .push] ++ stopEncoder 1 ++
          [.result .exit, .stop .joinResult, .stop .delete])
        (by decide +kernel)
    exact ⟨s, hr, henqueued, (hand_over_survives_stop hr).2.2.1 hdeleted⟩
  · obtain ⟨s, hr, henqueued, hdeleted⟩ :
        ∃ s, Run (oneHeader true) (HandOverDone (oneHeader true)) s ∧ s.enqueued = [7] ∧
          s.managerDeleted = true :=
      Guarded.Reachable.exists_of_exec
        [.start, .result (.deliver 7), .result .push, .inFlight .take, .inFlight .read,
          .inFlight .copy, .stop .begin, .result .exit, .stop .joinResult, .stop .delete]
        (by decide +kernel)
    exact ⟨s, hr, henqueued, (hand_over_survives_stop hr).2.2.1 hdeleted⟩

/-- The result thread has seen `_stop` clear and pushes onto the deleted queue; the video-only case
deletes the manager of a frame that its encoder has not read. -/
theorem frame_handed_over_too_late :
    (¬ ∀ s, Run (oneHeader false) (fun _ _ => True) s → s.fault = none) ∧
      ¬ ∀ s, Run (oneHeader true) (fun _ _ => True) s → s.managerDeleted = true →
        s.enqueued.Perm s.returned := by
  constructor
  · intro h
    obtain ⟨s, hr, hfault⟩ :
        ∃ s, Run (oneHeader false) (fun _ _ => True) s ∧ s.fault = some .deletedQueue :=
      Guarded.Reachable.exists_of_exec
        ([.start, .result (.deliver 7)] ++ stopEncoder 0 ++ [.result .push]) (by decide +kernel)
    rw [h s hr] at hfault
    cases hfault
  · intro h
    obtain ⟨s, hr, hdeleted, henqueued, hreturned⟩ :
        ∃ s, Run (oneHeader true) (fun _ _ => True) s ∧ s.managerDeleted = true ∧
          s.enqueued = [7] ∧ s.returned = [] :=
      Guarded.Reachable.exists_of_exec
        [.start, .result (.deliver 7), .result .push, .stop .begin, .result .exit,
          .stop .joinResult, .stop .delete]
        (by decide +kernel)
    have hperm := h s hr hdeleted
    rw [henqueued, hreturned] at hperm
    exact absurd hperm.length_eq (by decide)

end Encoder

end QCamx
