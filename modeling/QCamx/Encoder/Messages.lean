import QCamx.Lib.Trace

/-!
# The messages of the encoder

Every `OmxMsgQ` with its `new` and its `delete`, in both queues of `QCamxHAL3TestOMXEncoder`. The
messages come from `start`, from `stop` and from the callbacks of the component, which may fire
until the destructor has freed its handle. The worker loops delete what they take. `flush` takes
without deleting: its `delete` stands under `if (!msg)`.

* `Loop`, `Encoder`: a queue with its worker, and the two of them with `start` and `stop`;
* `step`: a critical section of one of the threads;
* `Step`: the steps by what they do to the messages;
* `Accounted`: the messages taken, deleted and dropped account for all that were allocated;
* **`places_perm`**: a message is in one place, and was taken at most once.
-/

namespace QCamx

open Guarded

namespace Messages

/-! ## State -/

/-- `OmxQType`. -/
inductive QType
  | inflight | outflight
  deriving DecidableEq, Repr

/-- The types of messages. -/
inductive MsgType
  | loopExit | read | write | emptybufToOutputidx
  deriving DecidableEq, Repr

/-- An `OmxMsgQ`, numbered by its `new`. -/
structure Msg where
  id : ℕ
  type : MsgType
  deriving DecidableEq, Repr

/-- The program counter of a worker loop. -/
inductive LoopPc
  | top
  | handling (m : Msg)
  | exited
  deriving DecidableEq, Repr

/-- A queue and its worker loop. -/
structure Loop where
  queue : List Msg := []
  pc : LoopPc := .top
  /-- `stop` has posted `LOOP_EXIT`. -/
  exitPosted : Bool := false
  /-- The messages posted after it. -/
  late : List Msg := []
  deriving DecidableEq, Repr

/-- The thread that runs `stop` and then the destructor. -/
inductive StopPc
  | running | flushed | exitInflight | exitOutflight | joined | destroyed
  deriving DecidableEq, Repr

/-- The encoder, with the messages that were taken from a queue, deleted, and dropped by `flush`. -/
structure Encoder where
  /-- The number of calls of `new OmxMsgQ`. -/
  allocated : ℕ := 0
  inflight : Loop := {}
  outflight : Loop := {}
  /-- `start` has created the threads. -/
  started : Bool := false
  /-- The messages that `start` has posted. -/
  posted : ℕ := 0
  stopPc : StopPc := .running
  taken : List ℕ := []
  deleted : List ℕ := []
  dropped : List ℕ := []
  deriving DecidableEq, Repr

/-- The buffers of the two ports, and whether there is a component. -/
structure Ports where
  hasHandle : Bool
  inputBufferCount : ℕ
  outputBufferCount : ℕ
  deriving DecidableEq, Repr

namespace Encoder

variable (s : Encoder)

def loop : QType → Loop
  | .inflight => s.inflight
  | .outflight => s.outflight

def setLoop (l : Loop) : QType → Encoder
  | .inflight => { s with inflight := l }
  | .outflight => { s with outflight := l }

end Encoder

/-! ## Steps -/

/-- `enqEvent` on a queue. -/
def Loop.push (m : Msg) (l : Loop) : Loop :=
  { l with
    queue := l.queue ++ [m]
    exitPosted := l.exitPosted || decide (m.type = .loopExit)
    late := if l.exitPosted then l.late ++ [m] else l.late }

/-- `new OmxMsgQ` and `enqEvent`. -/
def Encoder.post (q : QType) (type : MsgType) (s : Encoder) : Encoder :=
  { s.setLoop ((s.loop q).push ⟨s.allocated, type⟩) q with allocated := s.allocated + 1 }

/-- The number of messages that `start` posts; without a component it returns before. -/
def Ports.messages (p : Ports) : ℕ :=
  if p.hasHandle then p.outputBufferCount + p.inputBufferCount else 0

inductive Act
  /-- `start` creates the threads. -/
  | start
  /-- It posts the message of the next buffer. -/
  | post
  | onBufEmptyDone | onFillBufDone
  /-- A worker takes the front of its queue, or is done with it. -/
  | take (q : QType)
  | finish (q : QType)
  /-- The next step of `stop` and the destructor. -/
  | stop
  deriving DecidableEq, Repr

/-- The next message of `start`: first those for the buffers of the output port. -/
def postNext (p : Ports) (s : Encoder) : Encoder :=
  if s.posted < p.outputBufferCount then
    { s.post .outflight .emptybufToOutputidx with posted := s.posted + 1 }
  else { s.post .inflight .read with posted := s.posted + 1 }

/-- A worker takes a message. -/
def take (q : QType) (s : Encoder) : Option Encoder :=
  match (s.loop q).pc, (s.loop q).queue with
  | .top, m :: rest =>
      some { s.setLoop { s.loop q with queue := rest, pc := .handling m } q with
        taken := s.taken ++ [m.id] }
  | _, _ => none

/-- A worker deletes the message it has handled, and leaves its loop after `LOOP_EXIT`. -/
def finish (q : QType) (s : Encoder) : Option Encoder :=
  match (s.loop q).pc with
  | .handling m =>
      some { s.setLoop { s.loop q with pc := if m.type = .loopExit then .exited else .top } q with
        deleted := s.deleted ++ [m.id] }
  | _ => none

/-- `flush`, in one critical section: no message is `NULL`, and so none is deleted. -/
def flush (s : Encoder) : Encoder :=
  { s with
    inflight := { s.inflight with queue := [] }
    taken := s.taken ++ s.inflight.queue.map Msg.id
    dropped := s.dropped ++ s.inflight.queue.map Msg.id }

/-- `stop` up to the two joins, and the destructor, which waits for the end of `start`. -/
def stop (p : Ports) (s : Encoder) : Option Encoder :=
  match s.stopPc with
  | .running => if s.started then some { flush s with stopPc := .flushed } else none
  | .flushed => some { s.post .inflight .loopExit with stopPc := .exitInflight }
  | .exitInflight => some { s.post .outflight .loopExit with stopPc := .exitOutflight }
  | .exitOutflight =>
      if s.inflight.pc = .exited ∧ s.outflight.pc = .exited then some { s with stopPc := .joined }
      else none
  | .joined =>
      if s.posted = p.messages then some { s with stopPc := .destroyed } else none
  | .destroyed => none

/-- A step of the encoder. The component calls back until it is freed. -/
def step (p : Ports) (a : Act) (s : Encoder) : Option Encoder :=
  match a with
  | .start => if s.started then none else some { s with started := true }
  | .post => if s.started ∧ s.posted < p.messages then some (postNext p s) else none
  | .onBufEmptyDone => if s.stopPc = .destroyed then none else some (s.post .inflight .read)
  | .onFillBufDone => if s.stopPc = .destroyed then none else some (s.post .outflight .write)
  | .take q => if s.started then take q s else none
  | .finish q => finish q s
  | .stop => stop p s

/-! ## What a step can do -/

/-- The message that `start` or a callback posts. -/
def posts (p : Ports) : Act → Encoder → Option (QType × MsgType)
  | .post, s =>
      if s.posted < p.outputBufferCount then some (.outflight, .emptybufToOutputidx)
      else some (.inflight, .read)
  | .onBufEmptyDone, _ => some (.inflight, .read)
  | .onFillBufDone, _ => some (.outflight, .write)
  | .start, _ | .take _, _ | .finish _, _ | .stop, _ => none

/-- The steps, those that post a message in one. -/
inductive Step (p : Ports) (s : Encoder) : Act → Encoder → Prop
  | start : Step p s .start { s with started := true }
  | post {a : Act} {q : QType} {type : MsgType} {n : ℕ} (h : posts p a s = some (q, type))
      (htype : type ≠ .loopExit) : Step p s a { s.post q type with posted := n }
  | take {q : QType} {s' : Encoder} (h : take q s = some s') : Step p s (.take q) s'
  | finish {q : QType} {s' : Encoder} (h : finish q s = some s') : Step p s (.finish q) s'
  | stop {s' : Encoder} (h : stop p s = some s') : Step p s .stop s'

theorem Step.of_eq {p : Ports} {a : Act} {s s' : Encoder} (hs : step p a s = some s') :
    Step p s a s' := by
  cases a with
  | start =>
      rw [Messages.step] at hs
      split_ifs at hs
      obtain rfl := Option.some.inj hs
      exact .start
  | post =>
      rw [Messages.step, postNext] at hs
      split_ifs at hs with _ hlt
      · obtain rfl := Option.some.inj hs
        exact .post (by rw [posts, if_pos hlt]) (by decide)
      · obtain rfl := Option.some.inj hs
        exact .post (by rw [posts, if_neg hlt]) (by decide)
  | onBufEmptyDone =>
      rw [Messages.step] at hs
      split_ifs at hs
      obtain rfl := Option.some.inj hs
      have h : posts p .onBufEmptyDone s = some (.inflight, .read) := rfl
      exact Step.post (n := s.posted) h (by decide)
  | onFillBufDone =>
      rw [Messages.step] at hs
      split_ifs at hs
      obtain rfl := Option.some.inj hs
      have h : posts p .onFillBufDone s = some (.outflight, .write) := rfl
      exact Step.post (n := s.posted) h (by decide)
  | take q =>
      rw [Messages.step] at hs
      split_ifs at hs
      exact .take hs
  | finish q => exact .finish hs
  | stop => exact .stop hs

/-! ## Places -/

/-- The message a worker handles. -/
def Loop.held (l : Loop) : List ℕ :=
  match l.pc with
  | .handling m => [m.id]
  | _ => []

/-- The messages a loop has in its hands or in its queue. -/
def Loop.ids (l : Loop) : List ℕ := l.held ++ l.queue.map Msg.id

namespace Encoder

variable (s : Encoder)

/-- Where a message can be. -/
def places : List ℕ := s.inflight.ids ++ s.outflight.ids ++ (s.deleted ++ s.dropped)

/-- Where a message can be that was taken from its queue. -/
def takenPlaces : List ℕ := s.inflight.held ++ s.outflight.held ++ (s.deleted ++ s.dropped)

@[simp] theorem loop_setLoop (l : Loop) (q : QType) : (s.setLoop l q).loop q = l := by
  cases q <;> rfl

@[simp] theorem allocated_setLoop (l : Loop) (q : QType) :
    (s.setLoop l q).allocated = s.allocated := by
  cases q <;> rfl

@[simp] theorem taken_setLoop (l : Loop) (q : QType) : (s.setLoop l q).taken = s.taken := by
  cases q <;> rfl

@[simp] theorem deleted_setLoop (l : Loop) (q : QType) : (s.setLoop l q).deleted = s.deleted := by
  cases q <;> rfl

@[simp] theorem dropped_setLoop (l : Loop) (q : QType) : (s.setLoop l q).dropped = s.dropped := by
  cases q <;> rfl

theorem count_places_setLoop (l : Loop) (q : QType) (id : ℕ) :
    (s.setLoop l q).places.count id + (s.loop q).ids.count id =
      s.places.count id + l.ids.count id := by
  cases q <;> simp only [setLoop, loop, places, List.count_append] <;> omega

theorem count_takenPlaces_setLoop (l : Loop) (q : QType) (id : ℕ) :
    (s.setLoop l q).takenPlaces.count id + (s.loop q).held.count id =
      s.takenPlaces.count id + l.held.count id := by
  cases q <;> simp only [setLoop, loop, takenPlaces, List.count_append] <;> omega

theorem count_places_delete (m id : ℕ) :
    ({ s with deleted := s.deleted ++ [m] } : Encoder).places.count id =
      s.places.count id + [m].count id := by
  simp only [places, List.count_append]
  omega

theorem count_takenPlaces_delete (m id : ℕ) :
    ({ s with deleted := s.deleted ++ [m] } : Encoder).takenPlaces.count id =
      s.takenPlaces.count id + [m].count id := by
  simp only [takenPlaces, List.count_append]
  omega

end Encoder

/-- Every message is in one place, and those taken from a queue were taken once. -/
structure Accounted (s : Encoder) : Prop where
  places : ∀ id, s.places.count id = (List.range s.allocated).count id
  taken : ∀ id, s.taken.count id = s.takenPlaces.count id

namespace Accounted

variable {s s' : Encoder} {q : QType}

theorem post (h : Accounted s) (q : QType) (type : MsgType) : Accounted (s.post q type) where
  places := by
    intro id
    have hset := s.count_places_setLoop ((s.loop q).push ⟨s.allocated, type⟩) q id
    have hids : ((s.loop q).push ⟨s.allocated, type⟩).ids = (s.loop q).ids ++ [s.allocated] := by
      simp [Loop.ids, Loop.held, Loop.push]
    rw [hids, List.count_append, h.places id] at hset
    change (s.setLoop _ q).places.count id = (List.range (s.allocated + 1)).count id
    rw [List.range_succ, List.count_append]
    omega
  taken := by
    intro id
    have hset := s.count_takenPlaces_setLoop ((s.loop q).push ⟨s.allocated, type⟩) q id
    have hheld : ((s.loop q).push ⟨s.allocated, type⟩).held = (s.loop q).held := rfl
    rw [hheld, ← h.taken id] at hset
    change (s.setLoop _ q).taken.count id = (s.setLoop _ q).takenPlaces.count id
    rw [Encoder.taken_setLoop]
    omega

theorem take (h : Accounted s) (hs : Messages.take q s = some s') : Accounted s' := by
  unfold Messages.take at hs
  split at hs
  · rename_i m rest hpc hqueue
    obtain rfl := Option.some.inj hs
    have hheld : (s.loop q).held = [] := by rw [Loop.held, hpc]
    set l : Loop := { s.loop q with queue := rest, pc := .handling m } with hl
    have hids : l.ids = (s.loop q).ids := by simp [hl, Loop.ids, Loop.held, hpc, hqueue]
    have hheld' : l.held = [m.id] := rfl
    constructor
    · intro id
      have hset := s.count_places_setLoop l q id
      rw [hids, h.places id] at hset
      change (s.setLoop l q).places.count id = (List.range (s.setLoop l q).allocated).count id
      rw [Encoder.allocated_setLoop]
      omega
    · intro id
      have hset := s.count_takenPlaces_setLoop l q id
      rw [hheld, hheld', ← h.taken id] at hset
      change (s.taken ++ [m.id]).count id = (s.setLoop l q).takenPlaces.count id
      rw [List.count_append, ← hset, List.count_nil, Nat.add_zero]
  · simp at hs

theorem finish (h : Accounted s) (hs : Messages.finish q s = some s') : Accounted s' := by
  unfold Messages.finish at hs
  split at hs
  · rename_i m hpc
    set l : Loop := { s.loop q with pc := if m.type = .loopExit then .exited else .top } with hl
    rw [← Encoder.deleted_setLoop s l q] at hs
    obtain rfl := Option.some.inj hs
    have hheld : (s.loop q).held = [m.id] := by rw [Loop.held, hpc]
    have hheld' : l.held = [] := by
      simp only [hl, Loop.held]
      split_ifs <;> rfl
    have hids : (s.loop q).ids = [m.id] ++ l.ids := by
      rw [Loop.ids, Loop.ids, hheld, hheld']
      rfl
    constructor
    · intro id
      have hset := s.count_places_setLoop l q id
      rw [hids, List.count_append, h.places id] at hset
      change _ = (List.range (s.setLoop l q).allocated).count id
      rw [Encoder.count_places_delete, Encoder.allocated_setLoop]
      omega
    · intro id
      have hset := s.count_takenPlaces_setLoop l q id
      rw [hheld, hheld', List.count_nil, ← h.taken id] at hset
      change (s.setLoop l q).taken.count id = _
      rw [Encoder.count_takenPlaces_delete, Encoder.taken_setLoop]
      omega
  · simp at hs

theorem flush (h : Accounted s) : Accounted (Messages.flush s) where
  places := by
    intro id
    have hold := h.places id
    simp only [Messages.flush, Encoder.places, Loop.ids, Loop.held, List.count_append,
      List.map_nil, List.count_nil] at hold ⊢
    omega
  taken := by
    intro id
    have hold := h.taken id
    simp only [Messages.flush, Encoder.takenPlaces, Loop.held, List.count_append] at hold ⊢
    omega

theorem stop {p : Ports} (h : Accounted s) (hs : Messages.stop p s = some s') :
    Accounted s' := by
  unfold Messages.stop at hs
  split at hs
  · split_ifs at hs
    obtain rfl := Option.some.inj hs
    exact ⟨h.flush.places, h.flush.taken⟩
  · obtain rfl := Option.some.inj hs
    have hpost := h.post .inflight .loopExit
    exact ⟨hpost.places, hpost.taken⟩
  · obtain rfl := Option.some.inj hs
    have hpost := h.post .outflight .loopExit
    exact ⟨hpost.places, hpost.taken⟩
  · split_ifs at hs
    obtain rfl := Option.some.inj hs
    exact ⟨h.places, h.taken⟩
  · split_ifs at hs
    obtain rfl := Option.some.inj hs
    exact ⟨h.places, h.taken⟩
  · simp at hs

theorem step {p : Ports} {a : Act} (h : Accounted s) (hs : Step p s a s') : Accounted s' := by
  cases hs with
  | start => exact ⟨h.places, h.taken⟩
  | @post a q type n hposts htype =>
      have hpost := h.post q type
      exact ⟨hpost.places, hpost.taken⟩
  | take hs => exact h.take hs
  | finish hs => exact h.finish hs
  | stop hs => exact h.stop hs

end Accounted

/-- **Every message is in one place, and was taken at most once.** -/
theorem places_perm (p : Ports) {acts : List Act} {s : Encoder}
    (h : exec (step p) (fun _ _ => True) acts {} = some s) :
    s.places.Perm (List.range s.allocated) ∧ s.taken.Nodup := by
  have hs : Accounted s := by
    refine (Reachable.of_exec h).invariant ⟨fun _ => rfl, fun _ => rfl⟩ ?_
    intro s a s' _ hi _ hstep
    exact hi.step (.of_eq hstep)
  have hplaces : s.places.Perm (List.range s.allocated) := List.perm_iff_count.mpr hs.places
  refine ⟨hplaces, List.nodup_iff_count_le_one.mpr fun id => ?_⟩
  have hle := List.nodup_iff_count_le_one.mp (hplaces.nodup_iff.mpr List.nodup_range) id
  rw [hs.taken id]
  simp only [Encoder.places, Encoder.takenPlaces, Loop.ids, List.count_append] at hle ⊢
  omega

end Messages

end QCamx
