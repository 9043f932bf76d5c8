import QCamx.Encoder.Messages

/-!
# The messages after the encoder is destroyed

What has become of the messages of `QCamx.Encoder.Messages` when `stop` and the destructor are
done. A worker leaves its loop at `LOOP_EXIT`, so that what was posted after it stays in the queue,
and the destructor deletes the two queues and not what they hold.

* `Loop.Shape`: a queue and its `LOOP_EXIT`, kept by every step;
* `Kept`: the condition, on one step;
* **`consumedOnce_iff`**: every message is deleted exactly once if and only if the condition holds
  all along.
-/

namespace QCamx

open Guarded

namespace Messages

/-! ## Properties -/

/-- The number of a message is allocated. -/
def Encoder.Allocated (s : Encoder) (id : ℕ) : Prop := id < s.allocated

/-- No message is taken twice, and each is deleted exactly once. -/
structure ConsumedOnce (s : Encoder) : Prop where
  taken : s.taken.Nodup
  deleted : ∀ id, s.Allocated id → s.deleted.count id = 1

/-- `flush` finds nothing, and nothing is posted to a queue after its `LOOP_EXIT`. -/
def Kept (p : Ports) : Act → Encoder → Prop
  | .post, s =>
      if s.posted < p.outputBufferCount then s.outflight.exitPosted = false
      else s.inflight.exitPosted = false
  | .onBufEmptyDone, s => s.inflight.exitPosted = false
  | .onFillBufDone, s => s.outflight.exitPosted = false
  | .stop, s => s.stopPc = .running → s.inflight.queue = []
  | _, _ => True

instance (p : Ports) : ∀ a s, Decidable (Kept p a s)
  | .post, s => by unfold Kept; infer_instance
  | .stop, s => inferInstanceAs (Decidable (s.stopPc = .running → s.inflight.queue = []))
  | .onBufEmptyDone, s => inferInstanceAs (Decidable (s.inflight.exitPosted = false))
  | .onFillBufDone, s => inferInstanceAs (Decidable (s.outflight.exitPosted = false))
  | .start, _ | .take _, _ | .finish _, _ => isTrue trivial

/-! ## A queue and its LOOP_EXIT -/

/-- The messages behind the first `LOOP_EXIT` of a queue. -/
def afterExit : List Msg → List Msg
  | [] => []
  | m :: queue => if m.type = .loopExit then queue else afterExit queue

/-- A `LOOP_EXIT` is in the queue. -/
def hasExit (queue : List Msg) : Bool := queue.any fun m => decide (m.type = .loopExit)

theorem afterExit_append (queue : List Msg) (m : Msg) :
    afterExit (queue ++ [m]) =
      if hasExit queue then afterExit queue ++ [m] else afterExit queue := by
  induction queue with
  | nil => simp [afterExit, hasExit]
  | cons n queue ih =>
      by_cases hn : n.type = .loopExit
      · simp [afterExit, hasExit, hn]
      · simpa [afterExit, hasExit, hn] using ih

theorem afterExit_of_not_hasExit {queue : List Msg} (h : hasExit queue = false) :
    afterExit queue = [] := by
  induction queue with
  | nil => rfl
  | cons m queue ih =>
      rw [hasExit, List.any_cons, Bool.or_eq_false_iff, decide_eq_false_iff_not] at h
      rw [afterExit, if_neg h.1, ih h.2]

/-- The worker has taken its `LOOP_EXIT`. -/
def Loop.leaving (l : Loop) : Bool :=
  match l.pc with
  | .top => false
  | .handling m => decide (m.type = .loopExit)
  | .exited => true

/-- While a worker has not taken `LOOP_EXIT`, what is late stands behind it in the queue; then it is
all of the queue. -/
structure Loop.Shape (l : Loop) : Prop where
  exitPosted : l.exitPosted = (l.leaving || hasExit l.queue)
  late : l.late = if l.leaving then l.queue else afterExit l.queue

namespace Loop.Shape

variable {l : Loop}

theorem push (h : l.Shape) (m : Msg) : (l.push m).Shape where
  exitPosted := by
    change (l.exitPosted || decide (m.type = .loopExit)) = (l.leaving || hasExit (l.queue ++ [m]))
    rw [h.exitPosted, hasExit, hasExit, List.any_append]
    simp [Bool.or_assoc]
  late := by
    change (if l.exitPosted then l.late ++ [m] else l.late) =
      if l.leaving then l.queue ++ [m] else afterExit (l.queue ++ [m])
    rw [afterExit_append, h.exitPosted, h.late]
    cases l.leaving with
    | true => rfl
    | false => simp

theorem take (h : l.Shape) {m : Msg} {rest : List Msg} (hpc : l.pc = .top)
    (hqueue : l.queue = m :: rest) : Loop.Shape { l with queue := rest, pc := .handling m } := by
  have hleaving : l.leaving = false := by rw [Loop.leaving, hpc]
  have hexit := h.exitPosted
  have hlate := h.late
  rw [hleaving, hqueue] at hexit hlate
  by_cases hm : m.type = .loopExit
  · exact ⟨by simpa [Loop.leaving, hasExit, hm] using hexit,
      by simpa [Loop.leaving, afterExit, hm] using hlate⟩
  · exact ⟨by simpa [Loop.leaving, hasExit, hm] using hexit,
      by simpa [Loop.leaving, afterExit, hm] using hlate⟩

theorem finish (h : l.Shape) {m : Msg} (hpc : l.pc = .handling m) :
    Loop.Shape { l with pc := if m.type = .loopExit then .exited else .top } := by
  have hleaving : l.leaving = decide (m.type = .loopExit) := by rw [Loop.leaving, hpc]
  have hexit := h.exitPosted
  have hlate := h.late
  rw [hleaving] at hexit hlate
  by_cases hm : m.type = .loopExit
  · exact ⟨by simpa [Loop.leaving, hm] using hexit, by simpa [Loop.leaving, hm] using hlate⟩
  · exact ⟨by simpa [Loop.leaving, hm] using hexit, by simpa [Loop.leaving, hm] using hlate⟩

theorem flush (h : l.Shape) (hexit : l.exitPosted = false) : Loop.Shape { l with queue := [] } := by
  obtain ⟨hleaving, hqueue⟩ := Bool.or_eq_false_iff.mp (h.exitPosted.symm.trans hexit)
  have hlate := h.late
  rw [hleaving, if_neg Bool.false_ne_true, afterExit_of_not_hasExit hqueue] at hlate
  constructor
  · change l.exitPosted = (l.leaving || false)
    rw [hexit, hleaving]
    rfl
  · change l.late = if l.leaving then [] else []
    rw [hlate, ite_self]

theorem late_of_exited (h : l.Shape) (hpc : l.pc = .exited) : l.late = l.queue := by
  rw [h.late, Loop.leaving, hpc]
  rfl

end Loop.Shape

/-! ## The invariant -/

theorem Encoder.loop_setLoop_eq (s : Encoder) (l : Loop) (q q' : QType) :
    (s.setLoop l q).loop q' = if q' = q then l else s.loop q' := by
  cases q <;> cases q' <;> rfl

@[simp] theorem Encoder.stopPc_setLoop (s : Encoder) (l : Loop) (q : QType) :
    (s.setLoop l q).stopPc = s.stopPc := by
  cases q <;> rfl

/-- `stop` has posted the `LOOP_EXIT` of a queue. -/
def StopPc.exitSent (pc : StopPc) : QType → Bool
  | .inflight => decide (pc ≠ .running ∧ pc ≠ .flushed)
  | .outflight => decide (pc ≠ .running ∧ pc ≠ .flushed ∧ pc ≠ .exitInflight)

theorem forall_queue {P : QType → Prop} (hin : P .inflight) (hout : P .outflight) : ∀ q, P q
  | .inflight => hin
  | .outflight => hout

/-- What holds of an encoder at any time. -/
structure Inv (s : Encoder) : Prop where
  accounted : Accounted s
  shape : ∀ q, (s.loop q).Shape
  /-- Only `stop` posts `LOOP_EXIT`. -/
  exitPosted : ∀ q, (s.loop q).exitPosted = s.stopPc.exitSent q
  exited : s.stopPc = .joined ∨ s.stopPc = .destroyed → ∀ q, (s.loop q).pc = .exited

namespace Inv

variable {s s' : Encoder}

theorem setLoop (h : Inv s) {l : Loop} (q : QType) (hl : l.Shape)
    (hexit : l.exitPosted = (s.loop q).exitPosted)
    (hpc : (s.loop q).pc = .exited → l.pc = .exited) :
    (∀ q', ((s.setLoop l q).loop q').Shape) ∧
    (∀ q', ((s.setLoop l q).loop q').exitPosted = s.stopPc.exitSent q') ∧
    (s.stopPc = .joined ∨ s.stopPc = .destroyed →
      ∀ q', ((s.setLoop l q).loop q').pc = .exited) := by
  refine ⟨fun q' => ?_, fun q' => ?_, fun hstop q' => ?_⟩
  · rw [Encoder.loop_setLoop_eq]
    split_ifs
    · exact hl
    · exact h.shape q'
  · rw [Encoder.loop_setLoop_eq]
    split_ifs with hq
    · rw [hexit, h.exitPosted, hq]
    · exact h.exitPosted q'
  · rw [Encoder.loop_setLoop_eq]
    split_ifs
    · exact hpc (h.exited hstop q)
    · exact h.exited hstop q'

theorem post (h : Inv s) (q : QType) {type : MsgType} (htype : type ≠ .loopExit) :
    Inv (s.post q type) := by
  obtain ⟨hshape, hexit, hexited⟩ := h.setLoop q ((h.shape q).push ⟨s.allocated, type⟩)
    (by simp [Loop.push, htype]) id
  have hstop : (s.post q type).stopPc = s.stopPc := Encoder.stopPc_setLoop s _ q
  exact ⟨h.accounted.post q type, hshape, by rwa [hstop], by rwa [hstop]⟩

theorem take {q : QType} (h : Inv s) (hs : Messages.take q s = some s') : Inv s' := by
  have hacc := h.accounted.take hs
  unfold Messages.take at hs
  split at hs
  · rename_i m rest hpc hqueue
    obtain rfl := Option.some.inj hs
    obtain ⟨hshape, hexit, hexited⟩ := h.setLoop q ((h.shape q).take hpc hqueue) rfl
      (by simp [hpc])
    have hstop := s.stopPc_setLoop { s.loop q with queue := rest, pc := .handling m } q
    exact ⟨hacc, hshape, by rwa [← hstop] at hexit, by rwa [← hstop] at hexited⟩
  · simp at hs

theorem finish {q : QType} (h : Inv s) (hs : Messages.finish q s = some s') : Inv s' := by
  have hacc := h.accounted.finish hs
  unfold Messages.finish at hs
  split at hs
  · rename_i m hpc
    obtain rfl := Option.some.inj hs
    obtain ⟨hshape, hexit, hexited⟩ := h.setLoop q ((h.shape q).finish hpc) rfl (by simp [hpc])
    have hstop := s.stopPc_setLoop
      { s.loop q with pc := if m.type = .loopExit then .exited else .top } q
    exact ⟨hacc, hshape, by rwa [← hstop] at hexit, by rwa [← hstop] at hexited⟩
  · simp at hs

theorem stop {p : Ports} (h : Inv s) (hs : Messages.stop p s = some s') : Inv s' := by
  have hacc := h.accounted.stop hs
  have hin := h.exitPosted .inflight
  have hout := h.exitPosted .outflight
  unfold Messages.stop at hs
  split at hs
  · rename_i hpc
    split_ifs at hs
    obtain rfl := Option.some.inj hs
    rw [hpc] at hin hout
    have hflush := (h.shape .inflight).flush hin
    exact ⟨hacc, forall_queue hflush (h.shape .outflight), forall_queue hin hout, by simp⟩
  · rename_i hpc
    obtain rfl := Option.some.inj hs
    rw [hpc] at hout
    have hpush := (h.shape .inflight).push ⟨s.allocated, .loopExit⟩
    exact ⟨hacc, forall_queue hpush (h.shape .outflight), forall_queue (Bool.or_true _) hout,
      by simp⟩
  · rename_i hpc
    obtain rfl := Option.some.inj hs
    rw [hpc] at hin
    have hpush := (h.shape .outflight).push ⟨s.allocated, .loopExit⟩
    exact ⟨hacc, forall_queue (h.shape .inflight) hpush, forall_queue hin (Bool.or_true _),
      by simp⟩
  · rename_i hpc
    split_ifs at hs with hexited
    obtain rfl := Option.some.inj hs
    rw [hpc] at hin hout
    exact ⟨hacc, h.shape, forall_queue hin hout, fun _ => forall_queue hexited.1 hexited.2⟩
  · rename_i hpc
    split_ifs at hs
    obtain rfl := Option.some.inj hs
    rw [hpc] at hin hout
    exact ⟨hacc, h.shape, forall_queue hin hout, fun _ => h.exited (.inl hpc)⟩
  · simp at hs

theorem step {p : Ports} {a : Act} (h : Inv s) (hs : Step p s a s') : Inv s' := by
  have hacc := h.accounted.step hs
  cases hs with
  | start => exact ⟨hacc, h.shape, h.exitPosted, h.exited⟩
  | @post a q type n hposts htype =>
      have hpost := h.post q htype
      exact ⟨hacc, hpost.shape, hpost.exitPosted, hpost.exited⟩
  | take hs => exact h.take hs
  | finish hs => exact h.finish hs
  | stop hs => exact h.stop hs

end Inv

theorem inv_init : Inv {} where
  accounted := ⟨fun _ => rfl, fun _ => rfl⟩
  shape := fun q => by cases q <;> exact ⟨rfl, rfl⟩
  exitPosted := fun q => by cases q <;> rfl
  exited := by simp

/-! ## What is lost -/

/-- Nothing was dropped by `flush`, and nothing stands behind a `LOOP_EXIT`. -/
def Clean (s : Encoder) : Prop := s.dropped = [] ∧ s.inflight.late = [] ∧ s.outflight.late = []

theorem late_push_iff (l : Loop) (m : Msg) :
    (l.push m).late = [] ↔ l.late = [] ∧ l.exitPosted = false := by
  rw [Loop.push]
  cases l.exitPosted <;> simp

theorem clean_post_iff (s : Encoder) (q : QType) (type : MsgType) :
    Clean (s.post q type) ↔ Clean s ∧ (s.loop q).exitPosted = false := by
  cases q with
  | inflight =>
      change s.dropped = [] ∧ (s.inflight.push _).late = [] ∧ s.outflight.late = [] ↔ _
      rw [late_push_iff, Clean]
      change _ ↔ _ ∧ s.inflight.exitPosted = false
      tauto
  | outflight =>
      change s.dropped = [] ∧ s.inflight.late = [] ∧ (s.outflight.push _).late = [] ↔ _
      rw [late_push_iff, Clean]
      change _ ↔ _ ∧ s.outflight.exitPosted = false
      tauto

theorem clean_take {q : QType} {s s' : Encoder} (hs : take q s = some s') : Clean s' ↔ Clean s := by
  unfold take at hs
  split at hs
  · obtain rfl := Option.some.inj hs
    cases q <;> rfl
  · simp at hs

theorem clean_finish {q : QType} {s s' : Encoder} (hs : finish q s = some s') :
    Clean s' ↔ Clean s := by
  unfold finish at hs
  split at hs
  · obtain rfl := Option.some.inj hs
    cases q <;> rfl
  · simp at hs

theorem clean_stop {p : Ports} {s s' : Encoder} (h : Inv s) (hs : stop p s = some s') :
    Clean s' ↔ Clean s ∧ (s.stopPc = .running → s.inflight.queue = []) := by
  have hin := h.exitPosted .inflight
  have hout := h.exitPosted .outflight
  unfold stop at hs
  split at hs
  · rename_i hpc
    split_ifs at hs
    obtain rfl := Option.some.inj hs
    change s.dropped ++ s.inflight.queue.map Msg.id = [] ∧ _ ∧ _ ↔ _
    rw [List.append_eq_nil_iff, List.map_eq_nil_iff, Clean]
    tauto
  · rename_i hpc
    obtain rfl := Option.some.inj hs
    rw [hpc] at hin
    change Clean (s.post .inflight .loopExit) ↔ _
    have hopen : (s.loop .inflight).exitPosted = false := hin
    rw [clean_post_iff, and_iff_left hopen, and_iff_left (by simp [hpc])]
  · rename_i hpc
    obtain rfl := Option.some.inj hs
    rw [hpc] at hout
    change Clean (s.post .outflight .loopExit) ↔ _
    have hopen : (s.loop .outflight).exitPosted = false := hout
    rw [clean_post_iff, and_iff_left hopen, and_iff_left (by simp [hpc])]
  · rename_i hpc
    split_ifs at hs
    obtain rfl := Option.some.inj hs
    exact (and_iff_left (by simp [hpc])).symm
  · rename_i hpc
    split_ifs at hs
    obtain rfl := Option.some.inj hs
    exact (and_iff_left (by simp [hpc])).symm
  · simp at hs

theorem kept_iff_of_posts {p : Ports} {a : Act} {s : Encoder} {q : QType} {type : MsgType}
    (h : posts p a s = some (q, type)) : Kept p a s ↔ (s.loop q).exitPosted = false := by
  cases a with
  | post =>
      rw [posts] at h
      rw [Kept]
      split_ifs at h ⊢
      · obtain ⟨rfl, rfl⟩ := Prod.mk.inj (Option.some.inj h)
        rfl
      · obtain ⟨rfl, rfl⟩ := Prod.mk.inj (Option.some.inj h)
        rfl
  | onBufEmptyDone | onFillBufDone =>
      obtain ⟨rfl, rfl⟩ := Prod.mk.inj (Option.some.inj h)
      rfl
  | start | take q | finish q | stop => cases h

theorem clean_step {p : Ports} {a : Act} {s s' : Encoder} (h : Inv s) (hs : Step p s a s') :
    Clean s' ↔ Clean s ∧ Kept p a s := by
  cases hs with
  | start => exact (and_iff_left trivial).symm
  | @post a q type n hposts htype =>
      rw [kept_iff_of_posts hposts]
      exact clean_post_iff s q type
  | take hs => exact (clean_take hs).trans (and_iff_left trivial).symm
  | finish hs => exact (clean_finish hs).trans (and_iff_left trivial).symm
  | stop hs => exact clean_stop h hs

/-! ## The end -/

/-- The messages that nothing deletes. -/
def Encoder.lost (s : Encoder) : List ℕ :=
  s.inflight.late.map Msg.id ++ s.outflight.late.map Msg.id ++ s.dropped

theorem lost_eq_nil_iff (s : Encoder) : s.lost = [] ↔ Clean s := by
  rw [Encoder.lost, List.append_eq_nil_iff, List.append_eq_nil_iff, List.map_eq_nil_iff,
    List.map_eq_nil_iff, Clean]
  tauto

theorem Inv.count_deleted {s : Encoder} (h : Inv s) (hstop : s.stopPc = .destroyed) (id : ℕ) :
    s.deleted.count id + s.lost.count id = if id < s.allocated then 1 else 0 := by
  have hids : ∀ q, (s.loop q).ids = (s.loop q).late.map Msg.id := by
    intro q
    have hpc := h.exited (.inr hstop) q
    rw [(h.shape q).late_of_exited hpc, Loop.ids, Loop.held, hpc]
    rfl
  have hplaces := h.accounted.places id
  have hin : s.inflight.ids = s.inflight.late.map Msg.id := hids .inflight
  have hout : s.outflight.ids = s.outflight.late.map Msg.id := hids .outflight
  rw [List.count_range, Encoder.places, hin, hout] at hplaces
  simp only [Encoder.lost, List.count_append] at hplaces ⊢
  omega

theorem consumedOnce_iff_clean {s : Encoder} (h : Inv s) (hstop : s.stopPc = .destroyed)
    (htaken : s.taken.Nodup) : ConsumedOnce s ↔ Clean s := by
  rw [← lost_eq_nil_iff]
  constructor
  · intro hs
    apply List.eq_nil_iff_forall_not_mem.mpr
    intro id hid
    have hcount := h.count_deleted hstop id
    have hpos := List.count_pos_iff.mpr hid
    split_ifs at hcount with hlt
    · have := hs.deleted id hlt
      omega
    · omega
  · intro hlost
    refine ⟨htaken, fun id hid => ?_⟩
    have hcount := h.count_deleted hstop id
    rw [hlost, List.count_nil, Nat.add_zero] at hcount
    exact hcount.trans (if_pos hid)

/-- **Once `stop` and the destructor are done, every message has been deleted exactly once if and
only if every step of the run was kept.** -/
theorem consumedOnce_iff (p : Ports) {acts : List Act} {s : Encoder}
    (h : exec (step p) (fun _ _ => True) acts {} = some s) (hstop : s.stopPc = .destroyed) :
    ConsumedOnce s ↔ Along (step p) (Kept p) acts {} := by
  have hinv : Inv s :=
    (Reachable.of_exec h).invariant inv_init fun _ _ _ _ hi _ hstep => hi.step (.of_eq hstep)
  have hclean := final_iff_along (C := Clean) (fun _ _ _ hi _ hstep => Inv.step hi (.of_eq hstep))
    (fun _ _ _ hi _ hstep => clean_step hi (.of_eq hstep)) h inv_init
  rw [consumedOnce_iff_clean hinv hstop (places_perm p h).2, hclean]
  exact and_iff_right ⟨rfl, rfl, rfl⟩

/-- A run in which both workers are done with their messages when `stop` is called. -/
def orderly : List Act :=
  [.start, .post, .post, .take .outflight, .finish .outflight, .take .inflight, .finish .inflight,
    .onFillBufDone, .take .outflight, .finish .outflight, .stop, .stop, .stop, .take .inflight,
    .finish .inflight, .take .outflight, .finish .outflight, .stop, .stop]

/-- All five messages of that run are deleted once. -/
theorem kept_of_consumedOnce :
    ∃ s, exec (step ⟨true, 1, 1⟩) (fun _ _ => True) orderly {} = some s ∧
      s.stopPc = .destroyed ∧ s.allocated = 5 ∧ ConsumedOnce s := by
  let l : Loop := { pc := .exited, exitPosted := true }
  let s : Encoder :=
    { allocated := 5, inflight := l, outflight := l, started := true, posted := 2,
      stopPc := .destroyed, taken := [0, 1, 2, 3, 4], deleted := [0, 1, 2, 3, 4] }
  have hs : exec (step ⟨true, 1, 1⟩) (fun _ _ => True) orderly {} = some s := by decide
  have hkept : Along (step ⟨true, 1, 1⟩) (Kept ⟨true, 1, 1⟩) orderly {} := by decide
  exact ⟨s, hs, rfl, rfl, (consumedOnce_iff ⟨true, 1, 1⟩ hs rfl).mpr hkept⟩

/-- `flush` takes the `READ` message that `start` has posted, and nothing deletes it. -/
theorem flushed_message_not_deleted :
    ∃ s, exec (step ⟨true, 1, 1⟩) (fun _ _ => True)
        [.start, .post, .post, .take .outflight, .finish .outflight, .stop, .stop, .stop,
          .take .inflight, .finish .inflight, .take .outflight, .finish .outflight, .stop, .stop]
        {} = some s ∧
      s.stopPc = .destroyed ∧ s.Allocated 1 ∧ s.deleted.count 1 = 0 ∧ ¬ ConsumedOnce s := by
  let l : Loop := { pc := .exited, exitPosted := true }
  let s : Encoder :=
    { allocated := 4, inflight := l, outflight := l, started := true, posted := 2,
      stopPc := .destroyed, taken := [0, 1, 2, 3], deleted := [0, 2, 3], dropped := [1] }
  have hcount : s.deleted.count 1 = 0 := by decide
  have hallocated : s.Allocated 1 := show 1 < 4 by decide
  refine ⟨s, by decide, rfl, hallocated, hcount, fun h => ?_⟩
  have := h.deleted 1 hallocated
  omega

end Messages

end QCamx
