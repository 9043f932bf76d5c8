import QCamx.Buffer.Ion
import QCamx.Lib.CountedLoop

/-!
# `allocate_buffers`: the pool of a buffer manager

The loop that fills the slots `_buffers[i]`, over any `allocate_one_buffer`. It looks at no result:
each slot is counted and put into the free list, and the call returns `0`. The two members that
select the layout of a handle are assigned after the loop.

* `Pool`, `allocateBuffers`, `allocateOneIon`: the manager, the loop, the ION allocator;
* **`filledBy_allocateBuffers`**: what the loop leaves, whatever allocates;
* **`correctPool_iff`**: the pool is right exactly if no allocation fails and the members happened
  to hold a layout that is that of the arguments;
* `failed_allocation_not_reported`: one failed allocation.
-/

namespace QCamx

open CountedLoop

/-! ## Handles and slots -/

/-- `native_handle_t`: the words of `data`, file descriptors first. -/
structure NativeHandle where
  fds : List Int32
  ints : List Int32
  deriving DecidableEq, Repr

/-- The arguments of `native_handle_create`: `numFds` and `numInts`. -/
abbrev HandleLayout := ℕ × ℕ

def NativeHandle.layout (h : NativeHandle) : HandleLayout := (h.fds.length, h.ints.length)

/-- A slot of `_buffers`. The constructor does not initialise the array: a slot that nothing was
written to holds NULL or something `stale`. -/
inductive Slot
  | null
  | stale
  | handle (h : NativeHandle)
  deriving DecidableEq, Repr

/-- What is obtained and given back: a buffer object by its address, a descriptor by its number, a
handle by its slot. -/
inductive ResourceEvent
  | boCreated (bo : UInt64)
  | boDestroyed (bo : UInt64)
  | fdObtained (fd : Int32)
  | fdClosed (fd : Int32)
  | handleCreated (i : ℕ)
  | handleDeleted (i : ℕ)
  deriving DecidableEq, Repr

/-! ## The loop -/

/-- `BUFFER_QUEUE_DEPTH`. -/
def bufferQueueDepth : ℕ := 256

/-- `QCamxBufferManager`, without the records of its buffers. -/
structure Pool where
  buffers : Vector Slot bufferQueueDepth
  numOfBuffers : ℕ := 0
  /-- `_buffers_free`: `i` for `&_buffers[i]`. -/
  buffersFree : List ℕ := []
  isMetaBuf : UInt32
  isUBWC : UInt32
  log : List ResourceEvent := []

/-- A new manager: `_buffers`, `_is_meta_buf` and `_is_UWBC` hold what the memory held. -/
def Pool.new (stale : ℕ → Bool) (isMetaBuf isUBWC : UInt32) : Pool where
  buffers := Vector.ofFn fun i => if stale i then .stale else .null
  isMetaBuf := isMetaBuf
  isUBWC := isUBWC

/-- What a call of `allocate_one_buffer` returns, and what it writes to its slot. -/
structure Allocated where
  rc : Int32
  written : Option Slot := none
  events : List ResourceEvent := []
  deriving DecidableEq, Repr, Inhabited

namespace Pool

/-- Write to a slot, which has to be one of the array. -/
def write (i : ℕ) : Option Slot → Pool → Option Pool
  | none, p => some p
  | some s, p =>
      if h : i < bufferQueueDepth then some { p with buffers := p.buffers.set i s h } else none

/-- One round of the loop of `allocate_buffers`; `one` is told the members and the slot, and does
not return from undefined behaviour. -/
def allocateStep (one : UInt32 → UInt32 → ℕ → Option Allocated) (p : Pool) (i : ℕ) :
    Option Pool :=
  (one p.isMetaBuf p.isUBWC i).bind fun a =>
    (p.write i a.written).map fun p =>
      { p with
        numOfBuffers := p.numOfBuffers + 1
        buffersFree := p.buffersFree ++ [i]
        log := p.log ++ a.events }

/-- `allocate_buffers`: its result, and the pool. -/
def allocateBuffers (one : UInt32 → UInt32 → ℕ → Option Allocated) (numOfBuffers : ℕ)
    (isMetaBuf isUBWC : UInt32) (p : Pool) : Option (Int32 × Pool) :=
  (loop (allocateStep one) numOfBuffers p).map fun p =>
    (0, { p with isMetaBuf := isMetaBuf, isUBWC := isUBWC })

/-- The pool `p'` is `p` after the calls `a 0, …, a (n - 1)`. -/
structure FilledBy (a : ℕ → Allocated) (n : ℕ) (p p' : Pool) : Prop where
  buffers : ∀ j (h : j < bufferQueueDepth),
    p'.buffers[j] = if j < n then (a j).written.getD p.buffers[j] else p.buffers[j]
  numOfBuffers : p'.numOfBuffers = p.numOfBuffers + n
  buffersFree : p'.buffersFree = p.buffersFree ++ List.range n
  log : p'.log = p.log ++ (List.range n).flatMap fun i => (a i).events
  isMetaBuf : p'.isMetaBuf = p.isMetaBuf
  isUBWC : p'.isUBWC = p.isUBWC

variable {one : UInt32 → UInt32 → ℕ → Option Allocated} {a : ℕ → Allocated} {n : ℕ}
  {p p' : Pool}

theorem getElem_write {i j : ℕ} {s : Option Slot} (hs : s ≠ none → i < bufferQueueDepth)
    (hw : p.write i s = some p') (hj : j < bufferQueueDepth) :
    p'.buffers[j] = if j = i then s.getD p.buffers[j] else p.buffers[j] := by
  cases s with
  | none =>
      obtain rfl := Option.some.inj hw
      simp
  | some t =>
      have hi : i < bufferQueueDepth := hs (by simp)
      rw [write, dif_pos hi] at hw
      obtain rfl := Option.some.inj hw
      simp only [Vector.getElem_set, Option.getD_some, eq_comm (a := i)]

theorem write_eq_some {i : ℕ} {s : Option Slot} (hs : s ≠ none → i < bufferQueueDepth) :
    ∃ buffers, p.write i s = some { p with buffers := buffers } := by
  cases s with
  | none => exact ⟨p.buffers, rfl⟩
  | some t => exact ⟨p.buffers.set i t (hs (by simp)), by rw [write, dif_pos]⟩

theorem FilledBy.step {q : Pool} (h : FilledBy a n p q)
    (hone : one p.isMetaBuf p.isUBWC n = some (a n))
    (hn : (a n).written ≠ none → n < bufferQueueDepth) :
    ∃ p', allocateStep one q n = some p' ∧ FilledBy a (n + 1) p p' := by
  obtain ⟨buffers, hw⟩ := q.write_eq_some hn
  refine ⟨_, by rw [allocateStep, h.isMetaBuf, h.isUBWC, hone, Option.bind_some, hw]; rfl, ?_⟩
  constructor
  · intro j hj
    have hslot := getElem_write hn hw hj
    have hold := h.buffers j hj
    simp only at hslot ⊢
    rw [hslot, hold]
    by_cases hjn : j = n
    · subst hjn
      rw [if_pos rfl, if_neg (lt_irrefl j), if_pos (Nat.lt_succ_self j)]
    · rw [if_neg hjn]
      exact if_congr (by omega) rfl rfl
  · simp only [h.numOfBuffers]
    omega
  · simp only [h.buffersFree, List.range_succ, List.append_assoc]
  · simp only [h.log, List.range_succ, List.flatMap_append, List.flatMap_singleton,
      List.append_assoc]
  · exact h.isMetaBuf
  · exact h.isUBWC

/-- **What the loop leaves**, whatever allocates. -/
theorem filledBy_loop (hone : ∀ i < n, one p.isMetaBuf p.isUBWC i = some (a i))
    (hn : ∀ i < n, (a i).written ≠ none → i < bufferQueueDepth) :
    ∃ p', loop (allocateStep one) n p = some p' ∧ FilledBy a n p p' := by
  refine exists_loop (fun n q => FilledBy a n p q) ?_ fun i hi q hq => hq.step (hone i hi) (hn i hi)
  exact ⟨fun j hj => rfl, rfl, by simp, by simp, rfl, rfl⟩

theorem allocateStep_eq_some {i : ℕ} (h : allocateStep one p i = some p') :
    (∃ x, one p.isMetaBuf p.isUBWC i = some x ∧ (x.written ≠ none → i < bufferQueueDepth)) ∧
      p'.isMetaBuf = p.isMetaBuf ∧ p'.isUBWC = p.isUBWC := by
  obtain ⟨x, hx, h⟩ := Option.bind_eq_some_iff.mp h
  obtain ⟨q, hq, rfl⟩ := Option.map_eq_some_iff.mp h
  cases hw : x.written with
  | none =>
      rw [hw] at hq
      obtain rfl := Option.some.inj hq
      exact ⟨⟨x, hx, fun hne => absurd hw hne⟩, rfl, rfl⟩
  | some s =>
      rw [hw, write] at hq
      split_ifs at hq with hi
      obtain rfl := Option.some.inj hq
      exact ⟨⟨x, hx, fun _ => hi⟩, rfl, rfl⟩

theorem returns_of_loop (h : loop (allocateStep one) n p = some p') :
    ∀ i < n, ∃ x, one p.isMetaBuf p.isUBWC i = some x ∧
      (x.written ≠ none → i < bufferQueueDepth) := by
  refine (loop_invariant (fun n q => (∀ i < n, ∃ x, one p.isMetaBuf p.isUBWC i = some x ∧
    (x.written ≠ none → i < bufferQueueDepth)) ∧ q.isMetaBuf = p.isMetaBuf ∧
      q.isUBWC = p.isUBWC) h ⟨by simp, rfl, rfl⟩ ?_).1
  rintro i - q r ⟨hq, hmeta, hubwc⟩ hs
  obtain ⟨hx, hmeta', hubwc'⟩ := allocateStep_eq_some hs
  rw [hmeta, hubwc] at hx
  refine ⟨fun j hj => ?_, hmeta'.trans hmeta, hubwc'.trans hubwc⟩
  rcases Nat.lt_succ_iff_lt_or_eq.mp hj with hlt | rfl
  · exact hq j hlt
  · exact hx

/-- **The result and the pool of `allocate_buffers`.** -/
theorem filledBy_allocateBuffers (hone : ∀ i < n, one p.isMetaBuf p.isUBWC i = some (a i))
    (hn : ∀ i < n, (a i).written ≠ none → i < bufferQueueDepth) (isMetaBuf isUBWC : UInt32) :
    ∃ q, FilledBy a n p q ∧ p.allocateBuffers one n isMetaBuf isUBWC =
      some (0, { q with isMetaBuf := isMetaBuf, isUBWC := isUBWC }) := by
  obtain ⟨q, hq, hfilled⟩ := filledBy_loop hone hn
  exact ⟨q, hfilled, by rw [allocateBuffers, hq]; rfl⟩

theorem exists_filledBy {rc : Int32} {isMetaBuf isUBWC : UInt32}
    (h : p.allocateBuffers one n isMetaBuf isUBWC = some (rc, p')) :
    ∃ (a : ℕ → Allocated) (q : Pool), (∀ i < n, one p.isMetaBuf p.isUBWC i = some (a i)) ∧
      p.FilledBy a n q ∧ p' = { q with isMetaBuf := isMetaBuf, isUBWC := isUBWC } := by
  obtain ⟨q, hq, hp'⟩ := Option.map_eq_some_iff.mp h
  have hreturns := returns_of_loop hq
  choose! a hone hn using hreturns
  obtain ⟨q₀, hq₀, hfilled⟩ := filledBy_loop hone hn
  obtain rfl := Option.some.inj (hq.symm.trans hq₀)
  exact ⟨a, q, hone, hfilled, (Prod.mk.inj hp').2.symm⟩

theorem rc_allocateBuffers {rc : Int32} {isMetaBuf isUBWC : UInt32}
    (h : p.allocateBuffers one n isMetaBuf isUBWC = some (rc, p')) : rc = 0 := by
  obtain ⟨q, -, hq⟩ := Option.map_eq_some_iff.mp h
  exact (Prod.mk.inj hq).1.symm

end Pool

/-! ## ION -/

/-- What does not change between the calls: the size, the format, the usage and the SoC. -/
structure IonRequest where
  socId : UInt32
  width : UInt32
  height : UInt32
  format : UInt32
  consumerUsageFlags : UInt64

/-- What the kernel does in one call: `/dev/ion` cannot be opened, an `ioctl` fails, or there is
memory. -/
inductive IonAnswer
  | notOpened
  | refused (rc : { rc : Int32 // rc < 0 })
  | memory (fd : Int32)

/-- The layout of a handle that `is_meta_buf` and `is_UBWC` select; there is none for compressed
meta buffers. -/
def handleLayout (isMetaBuf isUBWC : UInt32) : Option HandleLayout :=
  if isMetaBuf = 0 then some (1, 4) else if isUBWC = 0 then some (1, 2) else none

/-- The handle that `allocate_one_ion_buffer` builds, but for `data[5]`, which lies behind the five
words of the first layout. -/
def ionHandle (isMetaBuf isUBWC : UInt32) (fd : Int32) (len : UInt64) : Option NativeHandle :=
  if isMetaBuf = 0 then some { fds := [fd], ints := [0, 0, 0, len.toUInt32.toInt32] }
  else if isUBWC = 0 then some { fds := [fd], ints := [0, len.toUInt32.toInt32] }
  else none

/-- `allocate_one_ion_buffer`, and what it leaves in the slot. -/
def allocateOneIon (r : IonRequest) (answer : ℕ → IonAnswer) (isMetaBuf isUBWC : UInt32) (i : ℕ) :
    Allocated :=
  match answer i, ionLayoutOf r.socId r.width r.height r.format r.consumerUsageFlags with
  | .notOpened, _ => { rc := -22 }
  | _, none => { rc := -1 }
  | .refused rc, some _ => { rc := rc }
  | .memory fd, some l =>
      match ionHandle isMetaBuf isUBWC fd (allocLen l.2.bufSize) with
      | none => { rc := -22, events := [.fdObtained fd] }
      | some h =>
          { rc := 0, written := some (.handle h), events := [.fdObtained fd, .handleCreated i] }

/-- `allocate_one_buffer` with `USE_ION`. -/
def allocateOneBuffer (r : IonRequest) (answer : ℕ → IonAnswer) (isMetaBuf isUBWC : UInt32)
    (i : ℕ) : Option Allocated :=
  some (allocateOneIon r answer isMetaBuf isUBWC i)

theorem layout_ionHandle (isMetaBuf isUBWC : UInt32) (fd : Int32) (len : UInt64) :
    (ionHandle isMetaBuf isUBWC fd len).map NativeHandle.layout =
      handleLayout isMetaBuf isUBWC := by
  rw [ionHandle, handleLayout]
  split_ifs <;> rfl

theorem handleLayout_isSome_iff_ionHandle (isMetaBuf isUBWC : UInt32) (fd : Int32) (len : UInt64) :
    (handleLayout isMetaBuf isUBWC).isSome ↔ ∃ h, ionHandle isMetaBuf isUBWC fd len = some h := by
  rw [← layout_ionHandle isMetaBuf isUBWC fd len, Option.isSome_map, Option.isSome_iff_exists]

/-- **When a call succeeds.** -/
theorem rc_allocateOneIon_eq_zero_iff {r : IonRequest} {answer : ℕ → IonAnswer}
    {isMetaBuf isUBWC : UInt32} {i : ℕ} :
    (allocateOneIon r answer isMetaBuf isUBWC i).rc = 0 ↔
      (∃ fd, answer i = .memory fd) ∧
        (ionLayoutOf r.socId r.width r.height r.format r.consumerUsageFlags).isSome ∧
        (handleLayout isMetaBuf isUBWC).isSome := by
  rw [allocateOneIon]
  cases answer i with
  | notOpened => simp
  | refused rc =>
      have hrc : rc.1 ≠ 0 := by
        intro h
        exact absurd (h ▸ rc.2) (by decide)
      cases ionLayoutOf r.socId r.width r.height r.format r.consumerUsageFlags <;> simp [hrc]
  | memory fd =>
      cases ionLayoutOf r.socId r.width r.height r.format r.consumerUsageFlags with
      | none => simp
      | some l =>
          rw [handleLayout_isSome_iff_ionHandle isMetaBuf isUBWC fd (allocLen l.2.bufSize)]
          cases hh : ionHandle isMetaBuf isUBWC fd (allocLen l.2.bufSize) <;> simp [hh]

theorem layout_of_written {r : IonRequest} {answer : ℕ → IonAnswer} {isMetaBuf isUBWC : UInt32}
    {i : ℕ} {h : NativeHandle}
    (hw : (allocateOneIon r answer isMetaBuf isUBWC i).written = some (.handle h)) :
    handleLayout isMetaBuf isUBWC = some h.layout := by
  rw [allocateOneIon] at hw
  cases ha : answer i with
  | notOpened => simp [ha] at hw
  | refused rc =>
      cases hl : ionLayoutOf r.socId r.width r.height r.format r.consumerUsageFlags <;>
        simp [ha, hl] at hw
  | memory fd =>
      cases hl : ionLayoutOf r.socId r.width r.height r.format r.consumerUsageFlags with
      | none => simp [ha, hl] at hw
      | some l =>
          rw [← layout_ionHandle isMetaBuf isUBWC fd (allocLen l.2.bufSize)]
          cases hh : ionHandle isMetaBuf isUBWC fd (allocLen l.2.bufSize) with
          | none => simp [ha, hl, hh] at hw
          | some h' =>
              simp only [ha, hl, hh, Option.some.injEq, Slot.handle.injEq] at hw
              rw [hw]
              rfl

theorem written_of_rc_eq_zero {r : IonRequest} {answer : ℕ → IonAnswer}
    {isMetaBuf isUBWC : UInt32} {i : ℕ}
    (hrc : (allocateOneIon r answer isMetaBuf isUBWC i).rc = 0) :
    ∃ h, (allocateOneIon r answer isMetaBuf isUBWC i).written = some (.handle h) := by
  obtain ⟨⟨fd, ha⟩, hl, hlayout⟩ := rc_allocateOneIon_eq_zero_iff.mp hrc
  obtain ⟨l, hl⟩ := Option.isSome_iff_exists.mp hl
  obtain ⟨h, hh⟩ := (handleLayout_isSome_iff_ionHandle isMetaBuf isUBWC fd
    (allocLen l.2.bufSize)).mp hlayout
  exact ⟨h, by simp only [allocateOneIon, ha, hl, hh]⟩

/-! ## The pool -/

/-- The slots whose allocation succeeded, in order. -/
def succeededSlots (result : ℕ → Int32) (n : ℕ) : List ℕ := (List.range n).filter (result · = 0)

/-- The pool that `allocate_buffers` should leave, and what it should return, where its calls of
`allocate_one_buffer` return `result 0, …, result (n - 1)`. -/
structure CorrectPool (result : ℕ → Int32) (n : ℕ) (layout : Option HandleLayout) (rc : Int32)
    (p : Pool) : Prop where
  buffersFree : p.buffersFree = succeededSlots result n
  nodup : p.buffersFree.Nodup
  numOfBuffers : p.numOfBuffers = (succeededSlots result n).length
  error : rc ≠ 0 ↔ ∃ i < n, result i ≠ 0
  layouts : ∀ i (hi : i < bufferQueueDepth) h, p.buffers[i] = .handle h → layout = some h.layout

/-- **The free list, the number and the result are right only if no allocation fails**, whatever
allocates. -/
theorem forall_rc_eq_zero_iff {a : ℕ → Allocated} {n : ℕ} {p q : Pool} (h : p.FilledBy a n q)
    (hnum : p.numOfBuffers = 0) (hfree : p.buffersFree = []) :
    (q.buffersFree = succeededSlots (fun i => (a i).rc) n ∧
      q.numOfBuffers = (succeededSlots (fun i => (a i).rc) n).length ∧
      ((0 : Int32) ≠ 0 ↔ ∃ i < n, (a i).rc ≠ 0)) ↔ ∀ i < n, (a i).rc = 0 := by
  have hqfree : q.buffersFree = List.range n := by
    rw [h.buffersFree, hfree, List.nil_append]
  have hqnum : q.numOfBuffers = n := by
    rw [h.numOfBuffers, hnum, Nat.zero_add]
  constructor
  · rintro ⟨-, -, herror⟩ i hi
    by_contra hne
    exact herror.mpr ⟨i, hi, hne⟩ rfl
  · intro hok
    have hfilter : succeededSlots (fun i => (a i).rc) n = List.range n := by
      rw [succeededSlots, List.filter_eq_self]
      intro i hi
      simpa using hok i (List.mem_range.mp hi)
    refine ⟨?_, ?_, ?_⟩
    · rw [hfilter, hqfree]
    · rw [hfilter, hqnum, List.length_range]
    · refine iff_of_false (by simp) ?_
      rintro ⟨i, hi, hne⟩
      exact hne (hok i hi)

/-- The members as the memory held them, and the arguments, select the same layout. -/
def SameLayout (isMetaBuf isUBWC isMetaBuf' isUBWC' : UInt32) : Prop :=
  (handleLayout isMetaBuf isUBWC).isSome ∧
    handleLayout isMetaBuf isUBWC = handleLayout isMetaBuf' isUBWC'

theorem getElem_new (stale : ℕ → Bool) (isMetaBuf isUBWC : UInt32) {i : ℕ}
    (hi : i < bufferQueueDepth) (h : NativeHandle) :
    (Pool.new stale isMetaBuf isUBWC).buffers[i] ≠ .handle h := by
  simp only [Pool.new, Vector.getElem_ofFn]
  split_ifs <;> simp

theorem Pool.FilledBy.written_of_handle {a : ℕ → Allocated} {n : ℕ} {stale : ℕ → Bool}
    {isMetaBuf isUBWC : UInt32} {q : Pool}
    (hfilled : (Pool.new stale isMetaBuf isUBWC).FilledBy a n q) {i : ℕ}
    (hi : i < bufferQueueDepth) {h : NativeHandle} (hq : q.buffers[i] = .handle h) :
    i < n ∧ (a i).written = some (.handle h) := by
  rw [hfilled.buffers i hi] at hq
  by_cases hin : i < n
  · rw [if_pos hin] at hq
    cases hw : (a i).written with
    | none => exact absurd (by simpa [hw] using hq) (getElem_new _ _ _ hi h)
    | some s =>
        rw [hw, Option.getD_some] at hq
        exact ⟨hin, by rw [hq]⟩
  · rw [if_neg hin] at hq
    exact absurd hq (getElem_new _ _ _ hi h)

/-- **The pool is right exactly if every allocation gets its memory and the members held a layout
that is the one of the arguments**, or if no buffer is asked for. -/
theorem correctPool_iff (r : IonRequest) (answer : ℕ → IonAnswer) (stale : ℕ → Bool)
    (memberMetaBuf memberUBWC isMetaBuf isUBWC : UInt32) {n : ℕ} (hn : n ≤ bufferQueueDepth) :
    (∃ rc q, (Pool.new stale memberMetaBuf memberUBWC).allocateBuffers (allocateOneBuffer r answer)
          n isMetaBuf isUBWC = some (rc, q) ∧
        CorrectPool (fun i => (allocateOneIon r answer memberMetaBuf memberUBWC i).rc) n
          (handleLayout isMetaBuf isUBWC) rc q) ↔
      n = 0 ∨ ((∀ i < n, ∃ fd, answer i = .memory fd) ∧
        (ionLayoutOf r.socId r.width r.height r.format r.consumerUsageFlags).isSome ∧
        SameLayout memberMetaBuf memberUBWC isMetaBuf isUBWC) := by
  have hone : ∀ i < n, allocateOneBuffer r answer memberMetaBuf memberUBWC i =
      some (allocateOneIon r answer memberMetaBuf memberUBWC i) := fun i _ => rfl
  obtain ⟨q, hfilled, hrun⟩ := Pool.filledBy_allocateBuffers
    (p := Pool.new stale memberMetaBuf memberUBWC) hone (fun i hi _ => by omega) isMetaBuf isUBWC
  have hok := forall_rc_eq_zero_iff hfilled rfl rfl
  constructor
  · rintro ⟨rc, q', hq', hcorrect⟩
    rw [hrun] at hq'
    obtain ⟨rfl, rfl⟩ := Prod.mk.inj (Option.some.inj hq')
    have hall := hok.mp ⟨hcorrect.buffersFree, hcorrect.numOfBuffers, hcorrect.error⟩
    rcases Nat.eq_zero_or_pos n with h0 | hpos
    · exact .inl h0
    · right
      obtain ⟨-, hformat, hmember⟩ := rc_allocateOneIon_eq_zero_iff.mp (hall 0 hpos)
      refine ⟨fun i hi => (rc_allocateOneIon_eq_zero_iff.mp (hall i hi)).1, hformat, hmember, ?_⟩
      obtain ⟨h, hw⟩ := written_of_rc_eq_zero (hall 0 hpos)
      have hdepth : 0 < bufferQueueDepth := by decide
      have hq : q.buffers[0] = .handle h := by
        rw [hfilled.buffers 0 hdepth, if_pos hpos, hw]
        rfl
      rw [hcorrect.layouts 0 hdepth h hq]
      exact layout_of_written hw
  · intro h
    refine ⟨0, _, hrun, ?_⟩
    have hall : ∀ i < n, (allocateOneIon r answer memberMetaBuf memberUBWC i).rc = 0 := by
      intro i hi
      rcases h with rfl | ⟨hanswer, hformat, hmember, -⟩
      · omega
      · exact rc_allocateOneIon_eq_zero_iff.mpr ⟨hanswer i hi, hformat, hmember⟩
    obtain ⟨hfree, hnum, herror⟩ := hok.mpr hall
    refine ⟨hfree, ?_, hnum, herror, ?_⟩
    · simp only [hfree]
      exact List.nodup_range.filter _
    · intro i hi h' hq
      obtain ⟨hin, hw⟩ := hfilled.written_of_handle hi hq
      rcases h with rfl | ⟨-, -, -, hsame⟩
      · omega
      · rw [← hsame]
        exact layout_of_written hw

/-- A `RAW16` image of 640x480. -/
def vgaRequest : IonRequest :=
  ⟨0, 640, 480, halPixelFormatRaw16.toUInt32, usageSwReadOften.toUInt64⟩

/-- With members that happen to be zero, two buffers are allocated as they should be. -/
theorem correctPool_vga :
    ∃ rc q, (Pool.new (fun _ => true) 0 0).allocateBuffers
        (allocateOneBuffer vgaRequest fun i => .memory (Int32.ofNat (i + 3))) 2 0 0 = some (rc, q) ∧
      CorrectPool (fun i => (allocateOneIon vgaRequest
        (fun i => .memory (Int32.ofNat (i + 3))) 0 0 i).rc) 2 (handleLayout 0 0) rc q :=
  (correctPool_iff vgaRequest _ _ 0 0 0 0 (by decide)).mpr
    (.inr ⟨fun i _ => ⟨_, rfl⟩, by decide, by decide, rfl⟩)

/-- The kernel has memory for one buffer. -/
def oneBuffer (i : ℕ) : IonAnswer := if i = 0 then .memory 3 else .refused ⟨-12, by decide⟩

/-- Of two buffers the second gets no memory: the call returns `0` all the same. -/
theorem failed_allocation_not_reported :
    ¬ ∃ rc q, (Pool.new (fun _ => true) 0 0).allocateBuffers
        (allocateOneBuffer vgaRequest oneBuffer) 2 0 0 = some (rc, q) ∧
      CorrectPool (fun i => (allocateOneIon vgaRequest oneBuffer 0 0 i).rc) 2 (handleLayout 0 0)
        rc q := by
  rintro ⟨rc, q, hq, hcorrect⟩
  obtain rfl := Pool.rc_allocateBuffers hq
  exact hcorrect.error.mpr ⟨1, by decide, by decide⟩ rfl

end QCamx
