import QCamx.Encoder.HandOver
import QCamx.Encoder.Rates
import QCamx.Lib.History

/-!
# The frames that the component gets

What `Read` leaves in the headers, and what `OMX_EmptyThisBuffer` therefore hands to the component:
a header carries what the frame's buffer held when it was copied and the time stamp `mTimeOffset` of
that moment, which `Read` then moves on by `mTimeOffsetInc`. None of it decides a step of
`QCamx.Encoder.Step`, so it is kept beside the encoder. Others may write to the buffers between two
steps: an action comes with what they hold.

* `Frames`, `recordFrames`, `FramesRun`: the headers and `mTimeOffset` in a run;
* `stamped`: frames with the time stamps that they should have;
* `Order`, `Copies`: what `Read` has taken from the queue, and what has become of it;
* **`frames_in_order`**: the component gets the frames in the order in which they were handed over.
-/

namespace QCamx

open Guarded

/-- `mTimeOffsetInc`, in microseconds. -/
def Config.timeOffsetInc (c : Config) : UInt32 :=
  if 60 < c.omxConfig.nframerate then 15000 else 30000

namespace Encoder

/-- The frames of the encoder, of which a buffer holds a `β`. -/
structure Frames (β : Type) where
  /-- `mTimeOffset`. -/
  timeOffset : UInt64 := 0
  /-- The frame in a header and its `nTimeStamp`, where `Read` has left one. -/
  header : Header → Option ((Buffer × β) × UInt64) := fun _ => none
  /-- The frames that `Read` has copied. -/
  copied : List (Buffer × β) := []
  /-- The frames that the drain of `stop` has taken from `mBufferQueue`. -/
  drained : List Buffer := []
  /-- The frames that the component has accepted, with their time stamps. -/
  accepted : List ((Buffer × β) × UInt64) := []

/-- A step of the encoder, and what the buffers hold then. -/
abbrev FrameAct (β : Type) := EncoderAct × (Buffer → β)

variable {β : Type}

/-- `Read` copies a frame, the component accepts a header, and `stop` drains the queue. -/
def recordFrames (inc : UInt32) (a : FrameAct β) (s s' : Encoder) (f : Frames β) : Frames β :=
  match a.1 with
  | .inFlight .copy => match s.inFlightPc with
    | .copy h b =>
        if s'.fault.isSome then f
        else
          { f with
            header := Function.update f.header h (some ((b, a.2 b), f.timeOffset))
            timeOffset := f.timeOffset + inc.toUInt64
            copied := f.copied ++ [(b, a.2 b)] }
    | _ => f
  | .inFlight (.submit true) => match s.inFlightPc with
    | .submit h => { f with accepted := f.accepted ++ (f.header h).toList }
    | _ => f
  | .stop .drain => { f with drained := f.drained ++ s'.stopPc.frame.toList }
  | _ => f

/-- A run of the encoder with its frames. -/
abbrev FramesRun (cfg : EncoderSetup) (inc : UInt32) (ok : EncoderAct → Encoder → Prop)
    (s : Encoder) (f : Frames β) : Prop :=
  Reachable (withHistory (fun a => step cfg a.1) (recordFrames inc)) (onState fun a => ok a.1)
    ({}, {}) (s, f)

section Stamps

variable {φ : Type}

/-- Frames, the first of them with time stamp `0`, and each `inc` after the one before. -/
def stamped (inc : UInt32) (frames : List φ) : List (φ × UInt64) :=
  frames.zipIdx.map fun p => (p.1, UInt64.ofNat (p.2 * inc.toNat))

theorem stamped_append (inc : UInt32) (frames : List φ) (b : φ) :
    stamped inc (frames ++ [b]) =
      stamped inc frames ++ [(b, UInt64.ofNat (frames.length * inc.toNat))] := by
  simp [stamped, List.zipIdx_append]

theorem stamped_map {ψ : Type} (inc : UInt32) (g : φ → ψ) (frames : List φ) :
    stamped inc (frames.map g) = (stamped inc frames).map fun p => (g p.1, p.2) := by
  simp [stamped, List.zipIdx_map]

@[simp] theorem map_fst_stamped (inc : UInt32) (frames : List φ) :
    (stamped inc frames).map Prod.fst = frames := by
  rw [stamped, List.map_map]
  exact List.zipIdx_map_fst 0 frames

theorem stamped_prefix (inc : UInt32) (frames more : List φ) :
    stamped inc frames <+: stamped inc (frames ++ more) :=
  ⟨_, by rw [stamped, stamped, List.zipIdx_append, List.map_append]⟩

theorem toNat_ofNat_of_lt {n : ℕ} (h : n < 2 ^ 63) : (UInt64.ofNat n).toNat = n :=
  UInt64.toNat_ofNat_of_lt' (h.trans (by decide))

theorem lt_of_mem_stamped {inc : UInt32} {frames : List φ} {p : φ × UInt64}
    (hinc : 0 < inc.toNat) (hlen : frames.length * inc.toNat < 2 ^ 63)
    (hp : p ∈ stamped inc frames) : p.2.toNat < frames.length * inc.toNat := by
  obtain ⟨⟨b, k⟩, hmem, rfl⟩ := List.mem_map.mp hp
  have hk : k < frames.length := by
    have hget := List.mem_zipIdx hmem
    omega
  have hlt : k * inc.toNat < frames.length * inc.toNat := Nat.mul_lt_mul_of_pos_right hk hinc
  simp only
  rw [toNat_ofNat_of_lt (by omega)]
  exact hlt

theorem pairwise_stamped {inc : UInt32} (hinc : 0 < inc.toNat) (frames : List φ)
    (hlen : frames.length * inc.toNat < 2 ^ 63) :
    (stamped inc frames).Pairwise fun p q => p.2.toNat < q.2.toNat := by
  induction frames using List.reverseRecOn with
  | nil => exact List.Pairwise.nil
  | append_singleton frames b ih =>
      rw [List.length_append, List.length_singleton, Nat.add_mul, one_mul] at hlen
      rw [stamped_append, List.pairwise_append]
      refine ⟨ih (by omega), List.pairwise_singleton _ _, ?_⟩
      intro p hp q hq
      obtain rfl := List.mem_singleton.mp hq
      rw [toNat_ofNat_of_lt (by omega)]
      exact lt_of_mem_stamped hinc (by omega) hp

end Stamps

theorem timeOffsetInc_pos (c : Config) : 0 < c.timeOffsetInc.toNat := by
  rw [Config.timeOffsetInc]
  split_ifs <;> decide

variable {cfg : EncoderSetup} {inc : UInt32} {s s' : Encoder} {f : Frames β} {held : Buffer → β}

/-! ## The steps without a frame -/

theorem recordFrames_of_seeks {h : Header} {a : InFlightAct} (hseeks : Seeks cfg s h a) :
    recordFrames inc (.inFlight a, held) s s' f = f := by
  obtain ⟨rfl, -⟩ | ⟨w, rfl, -⟩ := hseeks <;> rfl

theorem recordFrames_of_waitFrame {h : Header} (a : InFlightAct)
    (hpc : s.inFlightPc = .waitFrame h) : recordFrames inc (.inFlight a, held) s s' f = f := by
  cases a with
  | submit accepted => cases accepted <;> simp [recordFrames, hpc]
  | copy => simp [recordFrames, hpc]
  | take | read | wake => rfl

theorem Seeks.ne_exited {h : Header} {a : InFlightAct} (hseeks : Seeks cfg s h a) :
    s.inFlightPc ≠ .exited ∧ s.inFlightPc.frame = none := by
  obtain ⟨-, hpc, -⟩ | ⟨w, -, hpc, -⟩ := hseeks <;> rw [hpc] <;> exact ⟨by simp, rfl⟩

/-! ## The order of the queue -/

/-- Frames leave `mBufferQueue` in the order in which they came, first through `Read`, then through
the drain. -/
structure Order (s : Encoder) (f : Frames β) : Prop where
  enqueued : s.enqueued =
    f.copied.map Prod.fst ++ s.inFlightPc.frame.toList ++ f.drained ++ s.queued
  drained : f.drained ≠ [] → s.inFlightPc = .exited

namespace Order

theorem congr (h : Order s f) (henqueued : s'.enqueued = s.enqueued)
    (hframe : s'.inFlightPc.frame = s.inFlightPc.frame) (hqueued : s'.queued = s.queued)
    (hexited : s.inFlightPc = .exited → s'.inFlightPc = .exited) : Order s' f where
  enqueued := by rw [henqueued, hframe, hqueued, h.enqueued]
  drained hne := hexited (h.drained hne)

theorem drained_eq_nil (h : Order s f) (hpc : s.inFlightPc ≠ .exited) : f.drained = [] :=
  not_not.mp fun hne => hpc (h.drained hne)

theorem inFlight {a : InFlightAct} (h : Order s f) (hfault : s.fault = none)
    (hs : InFlightStep cfg s a s') : Order s' (recordFrames inc (.inFlight a, held) s s' f) := by
  cases hs with
  | takeRead hpc | takeExit hpc | nullBuffer hpc | readExit hpc | timeout hpc =>
      exact h.congr rfl (by simp [hpc, InFlightPc.frame]) rfl (by simp [hpc])
  | deletedQueue hpc =>
      rw [recordFrames_of_waitFrame a hpc]
      exact h.congr rfl rfl rfl id
  | waitFrame hseeks =>
      rw [recordFrames_of_seeks hseeks]
      obtain ⟨hpc, hframe⟩ := hseeks.ne_exited
      exact h.congr rfl (by rw [hframe]; rfl) rfl fun he => absurd he hpc
  | popFrame hseeks hqueue =>
      rw [recordFrames_of_seeks hseeks]
      obtain ⟨hpc, hframe⟩ := hseeks.ne_exited
      have hdrained := h.drained_eq_nil hpc
      refine ⟨?_, fun hne => absurd hdrained hne⟩
      have henqueued := h.enqueued
      rw [hframe, queued, hqueue, hdrained] at henqueued
      simpa [hdrained, queued, InFlightPc.frame] using henqueued
  | deletedManager hpc =>
      have hrecord : recordFrames inc (.inFlight .copy, held) s (s.fail .deletedManager) f = f := by
        simp [recordFrames, hpc, fail]
      rw [hrecord]
      exact h.congr rfl rfl rfl id
  | copy hpc hdeleted =>
      have hdrained := h.drained_eq_nil (by simp [hpc])
      have henqueued := h.enqueued
      rw [hpc, hdrained] at henqueued
      refine ⟨?_, fun hne => absurd ?_ hne⟩
      · simpa [recordFrames, hpc, hfault, hdrained, queued, InFlightPc.frame] using henqueued
      · simpa [recordFrames, hpc, hfault] using hdrained
  | accept hpc =>
      refine ⟨?_, fun hne => ?_⟩
      · have henqueued := h.enqueued
        rw [hpc] at henqueued
        simpa [recordFrames, hpc, queued, InFlightPc.frame] using henqueued
      · rw [recordFrames, hpc] at hne
        have hexited := h.drained hne
        rw [hpc] at hexited
        cases hexited
  | reject hpc => exact h.congr rfl (by simp [hpc, InFlightPc.frame]) rfl (by simp [hpc])

theorem step {a : EncoderAct} (h : Order s f) (hst : Stages cfg s) (hfault : s.fault = none)
    (hs : Step cfg s a s') : Order s' (recordFrames inc (a, held) s s' f) := by
  cases hs with
  | start | emptyDone => exact h.congr rfl rfl rfl id
  | inFlight hs => exact h.inFlight hfault hs
  | result hs =>
      cases hs with
      | returnBuffer | deliver | deletedQueue | exit => exact h.congr rfl rfl rfl id
      | push signalled hpc hqueue =>
          refine ⟨?_, h.drained⟩
          have henqueued := h.enqueued
          rw [queued, hqueue] at henqueued
          simp only [recordFrames, queued, henqueued, Option.getD_some, List.append_assoc]
  | stop hs =>
      cases hs with
      | beginVideoOnly | begin | flush | postExit | joinInFlight | joinResult | delete
      | giveBack => exact h.congr rfl rfl rfl id
      | drain hpc hqueue =>
          have hv : cfg.videoOnly = false := by
            by_contra hv
            have hle := hst.videoOnly (by simpa using hv)
            simp [hpc] at hle
          have hexited := hst.inFlight hv (by simp [hpc])
          refine ⟨?_, fun _ => hexited⟩
          have henqueued := h.enqueued
          rw [queued, hqueue] at henqueued
          simp [recordFrames, queued, henqueued, VideoStopPc.frame]
      | deleteQueue hpc hqueue =>
          have hrecord : recordFrames inc (.stop .drain, held) s
              { s with bufferQueue := none, stopPc := .joinResult } f = f := by
            simp [recordFrames, VideoStopPc.frame]
          rw [hrecord]
          exact h.congr rfl rfl (by simp [queued, hqueue]) id

end Order

/-! ## The copies -/

/-- The frame that is about to be handed to the component. -/
def handed (s : Encoder) (f : Frames β) : List ((Buffer × β) × UInt64) :=
  match s.inFlightPc with
  | .submit h => (f.header h).toList
  | _ => []

/-- What has become of the frames that `Read` has copied. -/
structure Copies (cfg : EncoderSetup) (inc : UInt32) (s : Encoder) (f : Frames β) : Prop where
  timeOffset : f.timeOffset = UInt64.ofNat (f.copied.length * inc.toNat)
  nullBuffer : ∀ h, cfg.nullBuffer h = true → f.header h = none
  seeking : ∀ h, s.inFlightPc = .waitFrame h ∨ (∃ b, s.inFlightPc = .copy h b) →
    cfg.nullBuffer h = false
  sublist : (f.accepted ++ s.handed f).Sublist (stamped inc f.copied)
  all : s.rejected = 0 → f.accepted ++ s.handed f = stamped inc f.copied

namespace Copies

theorem congr (h : Copies cfg inc s f) (hhanded : s'.handed f = s.handed f)
    (hseeking : ∀ h, s'.inFlightPc = .waitFrame h ∨ (∃ b, s'.inFlightPc = .copy h b) →
      cfg.nullBuffer h = false)
    (hrejected : s'.rejected = 0 → s.rejected = 0) : Copies cfg inc s' f where
  timeOffset := h.timeOffset
  nullBuffer := h.nullBuffer
  seeking := hseeking
  sublist := by rw [hhanded]; exact h.sublist
  all hr := by rw [hhanded]; exact h.all (hrejected hr)

theorem nullBuffer_of_seeks (h : Copies cfg inc s f) {x : Header} {a : InFlightAct}
    (hseeks : Seeks cfg s x a) : cfg.nullBuffer x = false ∧ s.handed f = [] := by
  obtain ⟨-, hpc, hnull⟩ | ⟨w, -, hpc, -⟩ := hseeks
  · exact ⟨hnull, by rw [handed, hpc]⟩
  · exact ⟨h.seeking x (Or.inl hpc), by rw [handed, hpc]⟩

theorem inFlight {a : InFlightAct} (h : Copies cfg inc s f) (hfault : s.fault = none)
    (hs : InFlightStep cfg s a s') : 
    Copies cfg inc s' (recordFrames inc (.inFlight a, held) s s' f) := by
  cases hs with
  | takeRead hpc | takeExit hpc | readExit hpc | timeout hpc =>
      exact h.congr (by simp [handed, hpc]) (by simp) id
  | nullBuffer hpc hnull =>
      refine h.congr ?_ (by simp) id
      rw [handed, handed, hpc]
      simp [h.nullBuffer _ hnull]
  | deletedQueue hpc =>
      rw [recordFrames_of_waitFrame a hpc]
      exact h.congr rfl h.seeking id
  | @waitFrame x a hseeks =>
      rw [recordFrames_of_seeks hseeks]
      obtain ⟨hnull, hnil⟩ := h.nullBuffer_of_seeks hseeks
      refine h.congr (by rw [hnil, handed]) ?_ id
      rintro y (hy | ⟨b, hy⟩)
      · obtain rfl := InFlightPc.waitFrame.inj hy
        exact hnull
      · cases hy
  | @popFrame x b q a hseeks =>
      rw [recordFrames_of_seeks hseeks]
      obtain ⟨hnull, hnil⟩ := h.nullBuffer_of_seeks hseeks
      refine h.congr (by rw [hnil, handed]) ?_ id
      rintro y (hy | ⟨c, hy⟩)
      · cases hy
      · obtain ⟨rfl, -⟩ := InFlightPc.copy.inj hy
        exact hnull
  | deletedManager hpc =>
      have hrecord : recordFrames inc (.inFlight .copy, held) s (s.fail .deletedManager) f = f := by
        simp [recordFrames, hpc, fail]
      rw [hrecord]
      exact h.congr rfl h.seeking id
  | @copy x b hpc hdeleted =>
      have hnil : s.handed f = [] := by rw [handed, hpc]
      have hnull := h.seeking x (Or.inr ⟨b, hpc⟩)
      have hsub := h.sublist
      have hall := h.all
      rw [hnil, List.append_nil] at hsub hall
      have hnew : recordFrames inc (.inFlight .copy, held) s
          { s with inFlightPc := .submit x, returned := s.returned ++ [b] } f =
          { f with
            header := Function.update f.header x (some ((b, held b), f.timeOffset))
            timeOffset := f.timeOffset + inc.toUInt64
            copied := f.copied ++ [(b, held b)] } := by
        simp [recordFrames, hpc, hfault]
      rw [hnew]
      constructor
      · simp only [List.length_append, List.length_singleton, h.timeOffset, Nat.add_mul, one_mul,
          UInt64.ofNat_add, UInt64.ofNat_uInt32ToNat]
      · intro y hy
        have hne : y ≠ x := by
          rintro rfl
          rw [hnull] at hy
          cases hy
        simpa [Function.update_of_ne hne] using h.nullBuffer y hy
      · rintro y (hy | ⟨c, hy⟩) <;> cases hy
      · simp only [handed, Function.update_self, Option.toList_some, stamped_append, h.timeOffset]
        exact hsub.append (List.Sublist.refl _)
      · intro hr
        simp only [handed, Function.update_self, Option.toList_some, stamped_append, h.timeOffset]
        rw [hall hr]
  | @accept x hpc =>
      have hhanded : s.handed f = (f.header x).toList := by rw [handed, hpc]
      have hnew : recordFrames inc (.inFlight (.submit true), held) s
          { s with inFlightPc := .top, component := x :: s.component } f =
          { f with accepted := f.accepted ++ s.handed f } := by
        rw [hhanded]
        simp [recordFrames, hpc]
      rw [hnew]
      refine ⟨h.timeOffset, h.nullBuffer, by simp, ?_, fun hr => ?_⟩
      · simpa [handed] using h.sublist
      · simpa [handed] using h.all hr
  | @reject x hpc =>
      refine ⟨h.timeOffset, h.nullBuffer, by simp, ?_, fun hr => by simp at hr⟩
      have hsub := (List.sublist_append_left f.accepted (s.handed f)).trans h.sublist
      simpa [handed, recordFrames] using hsub

theorem step {a : EncoderAct} (h : Copies cfg inc s f) (hfault : s.fault = none)
    (hs : Step cfg s a s') : Copies cfg inc s' (recordFrames inc (a, held) s s' f) := by
  cases hs with
  | start | emptyDone => exact h.congr rfl h.seeking id
  | inFlight hs => exact h.inFlight hfault hs
  | result hs => cases hs <;> exact h.congr rfl h.seeking id
  | stop hs =>
      cases hs with
      | drain | deleteQueue =>
          exact ⟨h.timeOffset, h.nullBuffer, h.seeking, h.sublist, h.all⟩
      | beginVideoOnly | begin | flush | postExit | joinInFlight | joinResult | delete
      | giveBack => exact h.congr rfl h.seeking id

end Copies

/-! ## Runs -/

theorem run_of_frames {ok : EncoderAct → Encoder → Prop} (h : FramesRun cfg inc ok s f) :
    Run cfg ok s := by
  have hrun : Reachable (fun a : FrameAct β => step cfg a.1) (fun a => ok a.1) {} s :=
    Reachable.forget h
  clear h
  induction hrun with
  | refl => exact .refl
  | tail _ hn ih =>
      obtain ⟨a, ha, hs⟩ := hn
      exact ih.tail (a := a.1) ha hs

theorem order_and_copies {ok : EncoderAct → Encoder → Prop} (h : FramesRun cfg inc ok s f) :
    Order s f ∧ Copies cfg inc s f := by
  have hinv : Stages cfg s ∧ Order s f ∧ Copies cfg inc s f := by
    refine Reachable.invariant_history
      (P := fun s f => Stages cfg s ∧ Order s f ∧ Copies cfg inc s f) h ?_ ?_
    · exact ⟨.init cfg, ⟨rfl, fun hne => absurd rfl hne⟩,
        by constructor <;> simp [handed, stamped]⟩
    · intro s f a s' _ hi _ hs
      obtain ⟨hst, horder, hcopies⟩ := hi
      obtain ⟨hfault, hs⟩ := Step.of_eq hs
      exact ⟨hst.step hs, horder.step hst hfault hs, hcopies.step hfault hs⟩
  exact hinv.2

/-- `inFilghtFunc` with a frame in the queue. -/
def copyFrame : List EncoderAct :=
  [.inFlight .take, .inFlight .read, .inFlight .copy, .inFlight (.submit true)]

/-- `oneHeader` is handed two frames and copies them. -/
def copyTwo : List EncoderAct :=
  [.start, .result (.deliver 7), .result .push, .result (.deliver 9), .result .push] ++
    copyFrame ++ [.emptyDone 1] ++ copyFrame

/-- **The component gets the frames in the order in which they were handed over**, each at most
once and frame `k` with the time stamp `k * mTimeOffsetInc`, so that time stamps increase. None is
left out before the last one it got unless `OMX_EmptyThisBuffer` has failed. -/
theorem frames_in_order {ok : EncoderAct → Encoder → Prop} {c : Config}
    (h : FramesRun cfg c.timeOffsetInc ok s f) :
    let accepted := f.accepted.map fun p => (p.1.1, p.2)
    accepted.Sublist (stamped c.timeOffsetInc s.enqueued) ∧
      (s.rejected = 0 → accepted <+: stamped c.timeOffsetInc s.enqueued) ∧
      (s.enqueued.length * c.timeOffsetInc.toNat < 2 ^ 63 →
        accepted.Pairwise fun p q => p.2.toNat < q.2.toNat) := by
  intro accepted
  obtain ⟨horder, hcopies⟩ := order_and_copies h
  have hprefix : (stamped c.timeOffsetInc f.copied).map (fun p => (p.1.1, p.2)) <+:
      stamped c.timeOffsetInc s.enqueued := by
    rw [horder.enqueued, List.append_assoc, List.append_assoc, ← stamped_map _ Prod.fst]
    exact stamped_prefix ..
  have hcopied : f.accepted.Sublist (stamped c.timeOffsetInc f.copied) :=
    (List.sublist_append_left _ _).trans hcopies.sublist
  have hsub : accepted.Sublist (stamped c.timeOffsetInc s.enqueued) :=
    (hcopied.map _).trans hprefix.sublist
  refine ⟨hsub, fun hr => ?_, fun hlen => ?_⟩
  · have hall : f.accepted <+: stamped c.timeOffsetInc f.copied :=
      ⟨_, hcopies.all hr⟩
    exact (hall.map _).trans hprefix
  · exact (pairwise_stamped (timeOffsetInc_pos c) _ hlen).sublist hsub

theorem two_frames_in_order :
    ∃ s, ∃ f : Frames Unit,
      FramesRun (oneHeader false) ({} : Config).timeOffsetInc (fun _ _ => True) s f ∧
        s.enqueued = [7, 9] ∧ f.accepted = [((7, ()), 0), ((9, ()), 30000)] ∧
        (f.accepted.map fun p => (p.1.1, p.2)) <+:
          stamped ({} : Config).timeOffsetInc s.enqueued := by
  obtain ⟨⟨s, f⟩, hr, henqueued, haccepted, hrejected⟩ :
      ∃ p : Encoder × Frames Unit,
        FramesRun (oneHeader false) ({} : Config).timeOffsetInc (fun _ _ => True) p.1 p.2 ∧
          p.1.enqueued = [7, 9] ∧ p.2.accepted = [((7, ()), 0), ((9, ()), 30000)] ∧
          p.1.rejected = 0 :=
    Reachable.exists_of_exec
      (copyTwo.map fun a => (a, fun _ => ())) (by decide +kernel)
  exact ⟨s, f, hr, henqueued, haccepted, (frames_in_order hr).2.1 hrejected⟩

end Encoder

end QCamx
