import QCamx.Define
import QCamx.Buffer.Allocation
import QCamx.Buffer.Gbm

/-!
# The buffer managers of a device

`pre_allocate_streams` creates a manager for each requested stream, `config_streams` hands them to
the stream records, and `stop_streams` deletes those of the configured streams. An init function
that returns before `config_streams` has configured none. A destructor frees every slot that is not
NULL, also one to which the allocation has written nothing.

* `Memory`, `newManager`: a manager with its buffers, from either library;
* **`isSome_destroy_newManager_iff`**: when its destructor returns;
* `ManagerTable`, `preAllocateStreams`, `configStreams`, `stopStreams`, `runCase`;
* **`managersReleased_iff`**: every manager is deleted exactly once if and only if the init function
  arrives at `config_streams`, its calls of the HAL return, and every slot was filled or happened to
  be NULL;
* `unsupported_preview_leaks`: a preview of a size that the camera does not have.
-/

namespace QCamx

open CountedLoop Streams

/-! ## One manager -/

/-- The library that the build uses, and what it answers manager `m` for slot `j`. -/
inductive BufferLibrary
  | ion (socId : UInt32) (answer : ℕ → ℕ → IonAnswer)
  | gbm (call : ℕ → ℕ → GbmCall)

namespace BufferLibrary

/-- `allocate_one_buffer` of manager `m`. -/
def allocateOneBuffer (m : ℕ) (a : AllocateArgs) :
    BufferLibrary → UInt32 → UInt32 → ℕ → Option Allocated
  | ion socId answer =>
      QCamx.allocateOneBuffer ⟨socId, a.width, a.height, a.format, a.consumerFlags⟩ (answer m)
  | gbm call => allocateOneGbm (call m)

/-- What `free_all_buffers` does with slot `i`; with ION it closes and deletes the handle. -/
def freeSlot : BufferLibrary → ℕ → Slot → Option (List ResourceEvent)
  | gbm _, i, slot => QCamx.freeSlot i slot
  | ion _ _, _, .null => some []
  | ion _ _, _, .stale => none
  | ion _ _, i, .handle h => some (nativeHandleClose h ++ [.handleDeleted i])

end BufferLibrary

/-- What a case finds where it puts its managers, and what they allocate from. -/
structure Memory where
  library : BufferLibrary
  /-- Whether slot `j` of manager `m` held something other than NULL before it was written. -/
  stale : ℕ → ℕ → Bool
  /-- `_is_meta_buf` and `_is_UWBC` of manager `m`, likewise. -/
  member : ℕ → UInt32 × UInt32
  /-- `get_jpeg_buffer_size`. -/
  jpegBufferSize : UInt32 → UInt32 → Int32

namespace Memory

variable (w : Memory) (m : ℕ) (s : Stream)

/-- The call of `allocate_buffers` for a stream. -/
def args : AllocateArgs := preAllocateArgs w.jpegBufferSize s

/-- A new manager after `allocate_buffers`, whose last two arguments are the defaults. -/
def newManager : Option Pool :=
  ((Pool.new (w.stale m) (w.member m).1 (w.member m).2).allocateBuffers
    (w.library.allocateOneBuffer m (w.args s)) (w.args s).numOfBuffers.toNat 0 0).map Prod.snd

/-- Slot `j` gets a buffer; or it does not, and happens to be NULL. -/
def FillsOrNull (j : ℕ) : Prop :=
  match w.library with
  | .ion socId answer =>
      w.stale m j = false ∨
        ((∃ fd, answer m j = .memory fd) ∧
          (ionLayoutOf socId (w.args s).width (w.args s).height (w.args s).format
            (w.args s).consumerFlags).isSome ∧
          (handleLayout (w.member m).1 (w.member m).2).isSome)
  | .gbm call => (call m j).Returns (w.stale m j)

end Memory

theorem written_allocateOneIon (r : IonRequest) (answer : ℕ → IonAnswer)
    (isMetaBuf isUBWC : UInt32) (i : ℕ) :
    ((allocateOneIon r answer isMetaBuf isUBWC i).rc ≠ 0 ∧
        (allocateOneIon r answer isMetaBuf isUBWC i).written = none) ∨
      ((allocateOneIon r answer isMetaBuf isUBWC i).rc = 0 ∧
        ∃ h, (allocateOneIon r answer isMetaBuf isUBWC i).written = some (.handle h)) := by
  by_cases hrc : (allocateOneIon r answer isMetaBuf isUBWC i).rc = 0
  · exact .inr ⟨hrc, written_of_rc_eq_zero hrc⟩
  · refine .inl ⟨hrc, ?_⟩
    rw [allocateOneIon] at hrc ⊢
    cases ha : answer i with
    | notOpened => rfl
    | refused rc =>
        cases ionLayoutOf r.socId r.width r.height r.format r.consumerUsageFlags <;> rfl
    | memory fd =>
        cases hl : ionLayoutOf r.socId r.width r.height r.format r.consumerUsageFlags with
        | none => rfl
        | some l =>
            cases hh : ionHandle isMetaBuf isUBWC fd (allocLen l.2.bufSize) with
            | none => simp only [hh]
            | some h => simp [ha, hl, hh] at hrc

namespace Memory

variable {w : Memory} {m : ℕ} {s : Stream}

/-- A slot can be freed: the allocation returns, and what it leaves is NULL or a handle. -/
theorem fillsOrNull_iff {j : ℕ} :
    w.FillsOrNull m s j ↔
      ∃ a, w.library.allocateOneBuffer m (w.args s) (w.member m).1 (w.member m).2 j = some a ∧
        (w.library.freeSlot j (a.written.getD (newSlot (w.stale m j)))).isSome := by
  cases hlib : w.library with
  | gbm call =>
      simp only [FillsOrNull, hlib, BufferLibrary.allocateOneBuffer, BufferLibrary.freeSlot]
      constructor
      · exact fun h => exists_of_returns h
      · rintro ⟨a, ha, hfree⟩
        exact (history_of_isSome ha hfree).1
  | ion socId answer =>
      simp only [FillsOrNull, hlib, BufferLibrary.allocateOneBuffer, QCamx.allocateOneBuffer,
        Option.some.injEq, exists_eq_left']
      rcases written_allocateOneIon ⟨socId, (w.args s).width, (w.args s).height, (w.args s).format,
        (w.args s).consumerFlags⟩ (answer m) (w.member m).1 (w.member m).2 j with
        ⟨hrc, hw⟩ | ⟨hrc, h, hw⟩
      · rw [Ne, rc_allocateOneIon_eq_zero_iff] at hrc
        rw [hw, Option.getD_none, or_iff_left hrc]
        cases w.stale m j <;> simp [newSlot, BufferLibrary.freeSlot]
      · have hfills := rc_allocateOneIon_eq_zero_iff.mp hrc
        rw [hw, Option.getD_some]
        exact iff_of_true (.inr hfills) rfl

/-- **The destructor returns** if and only if every slot was filled or happened to be NULL. -/
theorem isSome_destroy_newManager_iff (hs : (w.args s).numOfBuffers.toNat ≤ bufferQueueDepth) :
    ((w.newManager m s).bind (Pool.destroy w.library.freeSlot)).isSome ↔
      ∀ j < (w.args s).numOfBuffers.toNat, w.FillsOrNull m s j := by
  simp only [fillsOrNull_iff]
  constructor
  · intro h j hj
    obtain ⟨q, hq⟩ := Option.isSome_iff_exists.mp h
    obtain ⟨p, hp, hq⟩ := Option.bind_eq_some_iff.mp hq
    obtain ⟨⟨rc, p'⟩, hr, rfl⟩ := Option.map_eq_some_iff.mp hp
    obtain ⟨a, p, hone, hfilled, rfl⟩ := Pool.exists_filledBy hr
    have hnum : p.numOfBuffers = (w.args s).numOfBuffers.toNat :=
      hfilled.numOfBuffers.trans (Nat.zero_add _)
    have hreturns := (Pool.freedBy_of_loop hq).returns j (hnum ▸ hj)
    refine ⟨a j, hone j hj, ?_⟩
    rwa [← freeAt_filledBy w.library.freeSlot hfilled hj (by omega)]
  · intro h
    choose! a hone hfree using h
    obtain ⟨p, hfilled, hp⟩ := Pool.filledBy_allocateBuffers
      (p := Pool.new (w.stale m) (w.member m).1 (w.member m).2) hone (fun i hi _ => by omega) 0 0
    have hnum : p.numOfBuffers = (w.args s).numOfBuffers.toNat :=
      hfilled.numOfBuffers.trans (Nat.zero_add _)
    have hreturns : ∀ j < p.numOfBuffers,
        (Pool.freeAt w.library.freeSlot { p with isMetaBuf := 0, isUBWC := 0 } j).isSome := by
      intro j hj
      have hjn : j < (w.args s).numOfBuffers.toNat := hnum ▸ hj
      have hslot := hfree j hjn
      rwa [← freeAt_filledBy w.library.freeSlot hfilled hjn (by omega)] at hslot
    obtain ⟨q, hq, -⟩ := Pool.exists_freedBy hreturns
    rw [newManager, hp, Option.map_some, Option.bind_some, Option.isSome_iff_exists]
    exact ⟨q, hq⟩

end Memory

/-! ## The table -/

/-- The members of `QCamxDevice` that hold buffer managers, which are numbered as they are created;
`created` and `deleted` are the calls of `new` and `delete`. -/
structure ManagerTable where
  /-- `_buffer_manager`. -/
  bufferManager : Vector (Option ℕ) maxStream
  /-- `buffer_manager` of `_camera_streams[i]`, where there is one. -/
  cameraStreams : Vector (Option (Option ℕ)) maxStream
  /-- `_camera3_streams.size()`. -/
  camera3Streams : ℕ := 0
  /-- The managers themselves. -/
  pools : List Pool := []
  created : List ℕ := []
  deleted : List ℕ := []

/-- What the camera answers while a case is started. -/
structure CameraAnswers where
  /-- `open` returns `0`. -/
  opens : Bool
  /-- Calls through a `_camera3_device` that `open` has not set return. -/
  wild : Bool
  /-- `configure_streams` returns `0`. -/
  configures : Bool

namespace ManagerTable

/-- A new device. -/
def new : ManagerTable where
  bufferManager := Vector.replicate maxStream none
  cameraStreams := Vector.replicate maxStream none

/-- One round of `pre_allocate_streams`. -/
def preAllocateStep (w : Memory) (streams : List Stream) (t : ManagerTable) (i : ℕ) :
    Option ManagerTable :=
  if h : i < maxStream then
    streams[i]?.bind fun s => (w.newManager t.created.length s).map fun p =>
      { t with
        bufferManager := t.bufferManager.set i (some t.created.length) h
        pools := t.pools ++ [p]
        created := t.created ++ [t.created.length] }
  else none

/-- `pre_allocate_streams`. -/
def preAllocateStreams (w : Memory) (streams : List Stream) (t : ManagerTable) :
    Option ManagerTable :=
  loop (preAllocateStep w streams) streams.length t

/-- One round of `config_streams`. -/
def configStep (t : ManagerTable) (i : ℕ) : Option ManagerTable :=
  if h : i < maxStream then
    some { t with cameraStreams := t.cameraStreams.set i (some t.bufferManager[i]) h }
  else none

/-- `config_streams` of `n` streams: it calls `configure_streams`, whose result it returns, after
the managers have been handed over. -/
def configStreams (o : CameraAnswers) (n : ℕ) (t : ManagerTable) : Option (Bool × ManagerTable) :=
  (loop configStep n { t with camera3Streams := n }).bind fun t =>
    if o.opens || o.wild then some (o.configures, t) else none

/-- `delete` of a manager, which runs its destructor; of NULL it does nothing, and a manager cannot
be deleted again. -/
def delete (w : Memory) (t : ManagerTable) : Option ℕ → Option ManagerTable
  | none => some t
  | some m =>
      if m ∈ t.deleted then none
      else (t.pools[m]?.bind (Pool.destroy w.library.freeSlot)).map fun _ =>
        { t with deleted := t.deleted ++ [m] }

/-- One round of `stop_streams`, where there is a record to read. -/
def stopStep (w : Memory) (t : ManagerTable) (i : ℕ) : Option ManagerTable :=
  if h : i < maxStream then
    t.cameraStreams[i].bind fun manager => (t.delete w manager).map fun t =>
      { t with cameraStreams := t.cameraStreams.set i none h }
  else none

/-- `stop_streams`, once its threads have ended. -/
def stopStreams (w : Memory) (t : ManagerTable) : Option ManagerTable :=
  (loop (stopStep w) t.camera3Streams t).map fun t => { t with camera3Streams := 0 }

/-- The part of `run` that concerns the managers: the init function returns before
`config_streams`, or its result is not looked at; it does not return from reading a sensor mode
table that is not there. -/
def runInit (d : Characteristics) (c : Config) (tc : TestCase) (o : CameraAnswers)
    (t : ManagerTable) : Option ManagerTable :=
  match initStreamsOf d c tc with
  | .error (.unsupported _) => some t
  | .error .sensorModeTable => none
  | .ok call => (configStreams o call.streams.length t).map Prod.snd

/-- `pre_init_stream`, `open_camera`, whose result is not looked at, `run` and `stop` of a test
case. -/
def runCase (w : Memory) (d : Characteristics) (c : Config) (tc : TestCase) (o : CameraAnswers) :
    Option ManagerTable :=
  (preAllocateStreams w (preInitStreams d c tc) .new).bind fun t =>
    (runInit d c tc o t).bind (stopStreams w)

/-! ## The loops -/

variable {w : Memory} {streams : List Stream} {n : ℕ} {t u : ManagerTable}

/-- The table after `n` rounds of `pre_allocate_streams` on a new device. -/
structure PreAllocated (w : Memory) (streams : List Stream) (n : ℕ) (t : ManagerTable) : Prop where
  bufferManager : ∀ j (h : j < maxStream), j < n → t.bufferManager[j] = some j
  pools : t.pools.map some = (streams.take n).mapIdx w.newManager
  camera3Streams : t.camera3Streams = 0
  created : t.created = List.range n
  deleted : t.deleted = []

/-- The table after `n` rounds of `config_streams`. -/
structure HandedOver (n : ℕ) (t u : ManagerTable) : Prop where
  cameraStreams : ∀ j (h : j < maxStream), j < n → u.cameraStreams[j] = some t.bufferManager[j]
  bufferManager : u.bufferManager = t.bufferManager
  pools : u.pools = t.pools
  camera3Streams : u.camera3Streams = t.camera3Streams
  created : u.created = t.created
  deleted : u.deleted = t.deleted

/-- The table after `n` rounds of `stop_streams` on records that hold the managers `0, 1, …`. -/
structure Stopped (w : Memory) (n : ℕ) (t u : ManagerTable) : Prop where
  cameraStreams : ∀ j (h : j < maxStream), n ≤ j → u.cameraStreams[j] = t.cameraStreams[j]
  pools : u.pools = t.pools
  created : u.created = t.created
  deleted : u.deleted = List.range n
  destroyed : ∀ m < n, (t.pools[m]?.bind (Pool.destroy w.library.freeSlot)).isSome

theorem PreAllocated.refl : PreAllocated w streams 0 .new :=
  ⟨fun j _ hj => by omega, rfl, rfl, rfl, rfl⟩

theorem PreAllocated.step (h : PreAllocated w streams n t)
    (hs : preAllocateStep w streams t n = some u) : PreAllocated w streams (n + 1) u := by
  have hlen : t.created.length = n := by
    rw [h.created, List.length_range]
  rw [preAllocateStep] at hs
  split_ifs at hs with hlt
  obtain ⟨s, hs', hs⟩ := Option.bind_eq_some_iff.mp hs
  obtain ⟨p, hp, rfl⟩ := Option.map_eq_some_iff.mp hs
  obtain ⟨hn, rfl⟩ := List.getElem?_eq_some_iff.mp hs'
  constructor
  · intro j hj hji
    simp only [Vector.getElem_set, hlen]
    by_cases hij : n = j
    · rw [if_pos hij, hij]
    · rw [if_neg hij]
      exact h.bufferManager j hj (by omega)
  · rw [List.map_append, h.pools, List.take_succ_eq_append_getElem hn, List.mapIdx_append,
      List.length_take_of_le hn.le, List.mapIdx_cons, List.mapIdx_nil, Nat.zero_add, List.map_cons,
      List.map_nil, ← hp, hlen]
  · exact h.camera3Streams
  · simp only [h.created, List.length_range, List.range_succ]
  · exact h.deleted

/-- **What `pre_allocate_streams` leaves.** -/
theorem preAllocated_of_some (h : preAllocateStreams w streams .new = some t) :
    PreAllocated w streams streams.length t :=
  loop_invariant (fun n t => PreAllocated w streams n t) h .refl fun _ _ _ _ ht hs => ht.step hs

theorem exists_preAllocateStreams (hn : streams.length ≤ maxStream)
    (hw : ∀ m s, streams[m]? = some s → (w.newManager m s).isSome) :
    ∃ t, preAllocateStreams w streams .new = some t := by
  have hround : ∀ i < streams.length, ∀ t, PreAllocated w streams i t →
      ∃ u, preAllocateStep w streams t i = some u ∧ PreAllocated w streams (i + 1) u := by
    intro i hi t ht
    have hlen : t.created.length = i := by
      rw [ht.created, List.length_range]
    have hs : streams[i]? = some streams[i] := List.getElem?_eq_getElem hi
    obtain ⟨p, hp⟩ := Option.isSome_iff_exists.mp (hw i _ hs)
    have hlt : i < maxStream := by omega
    have hstep := preAllocateStep.eq_1 w streams t i
    rw [dif_pos hlt, hs, Option.bind_some, hlen, hp, Option.map_some] at hstep
    exact ⟨_, hstep, ht.step hstep⟩
  obtain ⟨t, ht, -⟩ := exists_loop _ .refl hround
  exact ⟨t, ht⟩

theorem PreAllocated.getElem?_pools (h : PreAllocated w streams streams.length t) (m : ℕ) :
    t.pools[m]? = streams[m]?.bind (w.newManager m) := by
  have hm := congrArg (·[m]?) h.pools
  simp only [List.take_length, List.getElem?_map, List.getElem?_mapIdx] at hm
  cases hp : t.pools[m]? <;> cases hs : streams[m]? <;> simp_all

theorem exists_configStreams (hn : n ≤ maxStream) {o : CameraAnswers} (ho : o.opens || o.wild)
    (t : ManagerTable) :
    ∃ u, configStreams o n t = some (o.configures, u) ∧
      HandedOver n { t with camera3Streams := n } u := by
  have hround : ∀ i < n, ∀ u, HandedOver i { t with camera3Streams := n } u →
      ∃ v, configStep u i = some v ∧ HandedOver (i + 1) { t with camera3Streams := n } v := by
    intro i hi u hu
    have hlt : i < maxStream := by omega
    refine ⟨_, by rw [configStep, dif_pos hlt], ?_⟩
    refine ⟨?_, hu.bufferManager, hu.pools, hu.camera3Streams, hu.created, hu.deleted⟩
    intro j hj hji
    simp only [Vector.getElem_set, hu.bufferManager]
    by_cases hij : i = j
    · subst hij
      rw [if_pos rfl]
    · rw [if_neg hij]
      exact hu.cameraStreams j hj (by omega)
  obtain ⟨u, hu, hhanded⟩ := exists_loop _ ⟨fun j _ hj => by omega, rfl, rfl, rfl, rfl, rfl⟩ hround
  exact ⟨u, by rw [configStreams, hu, Option.bind_some, if_pos ho], hhanded⟩

/-- The records hold the managers in order, and none is deleted yet. -/
structure InOrder (t : ManagerTable) : Prop where
  camera3Streams : t.camera3Streams ≤ maxStream
  cameraStreams : ∀ j (h : j < maxStream), j < t.camera3Streams →
    t.cameraStreams[j] = some (some j)
  deleted : t.deleted = []

theorem Stopped.stopStep_eq (h : Stopped w n t u) (ht : t.InOrder) (hn : n < t.camera3Streams)
    (hlt : n < maxStream) :
    stopStep w u n = (t.pools[n]?.bind (Pool.destroy w.library.freeSlot)).map fun _ =>
      { u with
        cameraStreams := u.cameraStreams.set n none hlt
        deleted := u.deleted ++ [n] } := by
  have hrecord : u.cameraStreams[n] = some (some n) := by
    rw [h.cameraStreams n hlt le_rfl, ht.cameraStreams n hlt hn]
  have hnew : n ∉ u.deleted := by
    rw [h.deleted]
    exact List.not_mem_range_self
  rw [stopStep, dif_pos hlt, hrecord, Option.bind_some, delete, if_neg hnew, h.pools,
    Option.map_map]
  rfl

theorem Stopped.step (h : Stopped w n t u) (ht : t.InOrder) (hn : n < t.camera3Streams)
    {v : ManagerTable} (hs : stopStep w u n = some v) : Stopped w (n + 1) t v := by
  have hlt : n < maxStream := by
    have := ht.camera3Streams
    omega
  rw [h.stopStep_eq ht hn hlt] at hs
  obtain ⟨p, hp, rfl⟩ := Option.map_eq_some_iff.mp hs
  constructor
  · intro j hj hij
    simp only [Vector.getElem_set]
    rw [if_neg (by omega), h.cameraStreams j hj (by omega)]
  · exact h.pools
  · exact h.created
  · simp only [h.deleted, List.range_succ]
  · intro m hm
    rcases Nat.lt_succ_iff_lt_or_eq.mp hm with hmn | rfl
    · exact h.destroyed m hmn
    · rw [hp]
      rfl

theorem Stopped.refl (ht : t.InOrder) : Stopped w 0 t t :=
  ⟨fun j _ _ => rfl, rfl, rfl, ht.deleted, by simp⟩

/-- **What `stop_streams` leaves.** -/
theorem stopped_of_some (ht : t.InOrder) (h : stopStreams w t = some u) :
    Stopped w t.camera3Streams t u := by
  obtain ⟨v, hv, rfl⟩ := Option.map_eq_some_iff.mp h
  have hstopped : Stopped w t.camera3Streams t v :=
    loop_invariant (fun n v => Stopped w n t v) hv (.refl ht) fun _ hi _ _ hu hs => hu.step ht hi hs
  exact ⟨hstopped.cameraStreams, hstopped.pools, hstopped.created, hstopped.deleted,
    hstopped.destroyed⟩

theorem exists_stopStreams (ht : t.InOrder)
    (hdestroy : ∀ m < t.camera3Streams,
      (t.pools[m]?.bind (Pool.destroy w.library.freeSlot)).isSome) :
    ∃ u, stopStreams w t = some u := by
  have hround : ∀ i < t.camera3Streams, ∀ u, Stopped w i t u →
      ∃ v, stopStep w u i = some v ∧ Stopped w (i + 1) t v := by
    intro i hi u hu
    have hlt : i < maxStream := by
      have := ht.camera3Streams
      omega
    obtain ⟨p, hp⟩ := Option.isSome_iff_exists.mp (hdestroy i hi)
    have hstep := hu.stopStep_eq ht hi hlt
    rw [hp, Option.map_some] at hstep
    exact ⟨_, hstep, hu.step ht hi hstep⟩
  obtain ⟨u, hu, -⟩ := exists_loop _ (.refl ht) hround
  exact ⟨_, by rw [stopStreams, hu, Option.map_some]⟩

/-! ## A whole run -/

section Run

variable (d : Characteristics) (c : Config) (tc : TestCase)

theorem length_preInitStreams : (preInitStreams d c tc).length ≤ maxStream := by
  cases tc with
  | previewOnly | previewSnapshot | previewVideo | videoOnly => simp [preInitStreams, maxStream]
  | hal3TestVideo =>
      rw [preInitStreams]
      split_ifs <;> simp [maxStream]
  | hal3TestDepth =>
      rw [preInitStreams]
      split_ifs <;> simp [maxStream]

theorem maxBuffers_videoPreviewStream (subformat : Implsubformat) :
    (videoPreviewStream c subformat).maxBuffers.toNat ≤ bufferQueueDepth := by
  rw [videoPreviewStream]
  split_ifs <;> exact Nat.le_of_ble_eq_true rfl

theorem maxBuffers_videoStream : (videoStream c).maxBuffers.toNat ≤ bufferQueueDepth := by
  rw [videoStream]
  split_ifs <;> exact Nat.le_of_ble_eq_true rfl

theorem maxBuffers_le {s : Stream} (hs : s ∈ preInitStreams d c tc) :
    s.maxBuffers.toNat ≤ bufferQueueDepth := by
  have hpreview := maxBuffers_videoPreviewStream c
  have hvideo := maxBuffers_videoStream c
  have hfew : ∀ n : UInt32, n = 12 ∨ n = 8 → n.toNat ≤ bufferQueueDepth := by
    rintro n (rfl | rfl) <;> decide
  cases tc <;> rw [preInitStreams] at hs
  case previewOnly =>
    obtain rfl := List.mem_singleton.mp hs
    exact hfew _ (.inl rfl)
  case previewSnapshot =>
    simp only [List.mem_cons, List.not_mem_nil, or_false] at hs
    rcases hs with rfl | rfl
    · exact hfew _ (.inl rfl)
    · exact hfew _ (.inr rfl)
  case previewVideo =>
    simp only [List.mem_cons, List.not_mem_nil, or_false] at hs
    rcases hs with rfl | rfl
    · exact hpreview _
    · exact hvideo
  case videoOnly =>
    obtain rfl := List.mem_singleton.mp hs
    exact hvideo
  case hal3TestVideo =>
    split_ifs at hs <;>
      simp only [List.mem_append, List.mem_cons, List.not_mem_nil, or_false] at hs
    · rcases hs with (rfl | rfl | rfl) | rfl
      · exact hpreview _
      · exact hvideo
      · exact hfew _ (.inl rfl)
      · exact hfew _ (.inr rfl)
    · rcases hs with rfl | rfl | rfl
      · exact hpreview _
      · exact hvideo
      · exact hfew _ (.inl rfl)
    · rcases hs with rfl | rfl
      · exact hpreview _
      · exact hvideo
  case hal3TestDepth =>
    split_ifs at hs <;> simp only [List.mem_cons, List.not_mem_nil, or_false] at hs
    · rcases hs with rfl | rfl <;> exact hfew _ (.inl rfl)
    · subst hs
      exact hfew _ (.inl rfl)

variable {d c tc} {w : Memory} {o : CameraAnswers} {t u : ManagerTable}

theorem inOrder_of_handedOver {streams : List Stream} (hn : streams.length ≤ maxStream)
    (ht : PreAllocated w streams streams.length t)
    (hu : HandedOver streams.length { t with camera3Streams := streams.length } u) :
    u.InOrder where
  camera3Streams := hu.camera3Streams ▸ hn
  cameraStreams := by
    intro j hj hlt
    rw [hu.camera3Streams] at hlt
    rw [hu.cameraStreams j hj hlt]
    exact congrArg some (ht.bufferManager j hj hlt)
  deleted := hu.deleted.trans ht.deleted

theorem length_streams_of_ok {call : ConfigStreams} (h : initStreamsOf d c tc = .ok call) :
    call.streams.length = (preInitStreams d c tc).length := by
  rw [(initStreamsOf_eq_ok_iff.mp h).2.2, ← map_pstream_preInitStreams, List.length_map]

theorem runInit_of_ok {call : ConfigStreams} (h : initStreamsOf d c tc = .ok call) :
    runInit d c tc o t = (configStreams o (preInitStreams d c tc).length t).map Prod.snd := by
  simp only [runInit, h, length_streams_of_ok h]

/-- **A run whose init function returns before** `config_streams` deletes nothing. -/
theorem deleted_of_unsupported {s : AvailableStream}
    (h : initStreamsOf d c tc = .error (.unsupported s)) (hu : runCase w d c tc o = some u) :
    u.created = List.range (preInitStreams d c tc).length ∧ u.deleted = [] := by
  obtain ⟨t, ht, hu⟩ := Option.bind_eq_some_iff.mp hu
  have hpre := preAllocated_of_some ht
  rw [runInit, h, Option.bind_some, stopStreams, hpre.camera3Streams] at hu
  obtain rfl := Option.some.inj hu
  exact ⟨hpre.created, hpre.deleted⟩

/-- **A run that arrives at `config_streams`** and returns: the calls of the HAL have returned, and
so have the destructors. -/
theorem stopped_of_ok {call : ConfigStreams} (h : initStreamsOf d c tc = .ok call)
    (hu : runCase w d c tc o = some u) :
    (o.opens || o.wild) ∧ u.created = List.range (preInitStreams d c tc).length ∧
      u.deleted = List.range (preInitStreams d c tc).length ∧
      ∀ m < (preInitStreams d c tc).length,
        ((preInitStreams d c tc)[m]?.bind fun s =>
          (w.newManager m s).bind (Pool.destroy w.library.freeSlot)).isSome := by
  obtain ⟨t, ht, hu⟩ := Option.bind_eq_some_iff.mp hu
  have hpre := preAllocated_of_some ht
  have hn := length_preInitStreams d c tc
  obtain ⟨v, hv, hu⟩ := Option.bind_eq_some_iff.mp hu
  rw [runInit_of_ok h] at hv
  obtain ⟨⟨b, v⟩, hconfig, rfl⟩ := Option.map_eq_some_iff.mp hv
  have ho : o.opens || o.wild := by
    by_contra ho
    obtain ⟨t', -, hif⟩ := Option.bind_eq_some_iff.mp hconfig
    rw [if_neg ho] at hif
    cases hif
  obtain ⟨v', hconfig', hhanded⟩ := exists_configStreams hn ho t
  obtain ⟨-, rfl⟩ := Prod.mk.inj (Option.some.inj (hconfig.symm.trans hconfig'))
  have hstopped := stopped_of_some (inOrder_of_handedOver hn hpre hhanded) hu
  rw [hhanded.camera3Streams] at hstopped
  refine ⟨ho, ?_, hstopped.deleted, fun m hm => ?_⟩
  · rw [hstopped.created, hhanded.created]
    exact hpre.created
  · have hdestroyed := hstopped.destroyed m hm
    rw [hhanded.pools] at hdestroyed
    rwa [hpre.getElem?_pools, Option.bind_assoc] at hdestroyed

/-- Every manager that was created has been deleted exactly once. -/
def Released (t : ManagerTable) : Prop := ∀ m ∈ t.created, t.deleted.count m = 1

/-- A case that fails before `config_streams` does not delete its first manager. -/
theorem exists_ok_of_released (hu : runCase w d c tc o = some u) (hreleased : u.Released) :
    ∃ call, initStreamsOf d c tc = .ok call := by
  cases hinit : initStreamsOf d c tc with
  | ok call => exact ⟨call, rfl⟩
  | error e =>
      exfalso
      cases e with
      | sensorModeTable =>
          obtain ⟨t, -, hu⟩ := Option.bind_eq_some_iff.mp hu
          rw [runInit, hinit] at hu
          cases hu
      | unsupported s =>
          obtain ⟨hcreated, hdeleted⟩ := deleted_of_unsupported hinit hu
          have hpos : 0 < (preInitStreams d c tc).length := by
            rw [← List.length_map Stream.pstream, map_pstream_preInitStreams]
            exact List.length_pos_iff.mpr preInitStream_ne_nil
          have hone := hreleased 0 (hcreated ▸ List.mem_range.mpr hpos)
          rw [hdeleted, List.count_nil] at hone
          omega

/-- A case that configures its streams deletes each of its managers, if their destructors return. -/
theorem exists_released {call : ConfigStreams} (hcall : initStreamsOf d c tc = .ok call)
    (ho : (o.opens || o.wild) = true)
    (hmanagers : ∀ m s, (preInitStreams d c tc)[m]? = some s →
      ((w.newManager m s).bind (Pool.destroy w.library.freeSlot)).isSome) :
    ∃ u, runCase w d c tc o = some u ∧ u.Released := by
  have hn := length_preInitStreams d c tc
  obtain ⟨t, ht⟩ := exists_preAllocateStreams hn fun m s hs => by
    obtain ⟨q, hq⟩ := Option.isSome_iff_exists.mp (hmanagers m s hs)
    obtain ⟨p, hp, -⟩ := Option.bind_eq_some_iff.mp hq
    rw [hp]
    rfl
  have hpre := preAllocated_of_some ht
  obtain ⟨v, hconfig, hhanded⟩ := exists_configStreams hn ho t
  obtain ⟨u, hu⟩ := exists_stopStreams (w := w) (inOrder_of_handedOver hn hpre hhanded)
    fun m hm => by
      rw [hhanded.camera3Streams] at hm
      have hs : (preInitStreams d c tc)[m]? = some (preInitStreams d c tc)[m] :=
        List.getElem?_eq_getElem hm
      rw [hhanded.pools, hpre.getElem?_pools, hs]
      exact hmanagers m _ hs
  have hrun : runCase w d c tc o = some u := by
    rw [runCase, ht, Option.bind_some, runInit_of_ok hcall, hconfig, Option.map_some,
      Option.bind_some, hu]
  obtain ⟨-, hcreated, hdeleted, -⟩ := stopped_of_ok hcall hrun
  refine ⟨u, hrun, fun m hm => ?_⟩
  rw [hcreated] at hm
  rw [hdeleted]
  exact List.count_eq_one_of_mem List.nodup_range hm

/-- **Every manager is deleted exactly once** if and only if the init function arrives at
`config_streams`, the HAL calls return, and every slot is filled or NULL. -/
theorem managersReleased_iff (w : Memory) (d : Characteristics) (c : Config) (tc : TestCase)
    (o : CameraAnswers) :
    (∃ t, runCase w d c tc o = some t ∧ t.Released) ↔
      ReachesConfigStreams d c tc ∧ (o.opens ∨ o.wild) ∧
        ∀ m s, (preInitStreams d c tc)[m]? = some s →
          ∀ j < s.maxBuffers.toNat, w.FillsOrNull m s j := by
  have hdestroy : ∀ m s, (preInitStreams d c tc)[m]? = some s →
      (((w.newManager m s).bind (Pool.destroy w.library.freeSlot)).isSome ↔
        ∀ j < s.maxBuffers.toNat, w.FillsOrNull m s j) := fun m s hs =>
    Memory.isSome_destroy_newManager_iff (maxBuffers_le d c tc (List.mem_of_getElem? hs))
  rw [← Bool.or_eq_true]
  constructor
  · rintro ⟨u, hu, hreleased⟩
    obtain ⟨call, hcall⟩ := exists_ok_of_released hu hreleased
    obtain ⟨ho, -, -, hmanagers⟩ := stopped_of_ok hcall hu
    refine ⟨exists_initStreamsOf_eq_ok_iff.mp ⟨call, hcall⟩, ho, fun m s hs => ?_⟩
    have hm := hmanagers m (List.getElem?_eq_some_iff.mp hs).1
    rw [hs, Option.bind_some] at hm
    exact (hdestroy m s hs).mp hm
  · rintro ⟨hreaches, ho, hslots⟩
    obtain ⟨call, hcall⟩ := exists_initStreamsOf_eq_ok_iff.mpr hreaches
    exact exists_released hcall ho fun m s hs => (hdestroy m s hs).mpr (hslots m s hs)

end Run

/-- The configuration of `id=0,psize=641x480,pformat=yuv420`; `vgaCharacteristics` has no such
output. -/
def oddPreviewConfig : Config where
  testMode := some .preview
  cameraId := 0
  previewStream :=
    { type := some .preview, width := 641, height := 480, format := halPixelFormatYCbCr420888 }

/-- The configuration of `id=0,psize=640x480,pformat=yuv420`. -/
def vgaPreviewConfig : Config where
  testMode := some .preview
  cameraId := 0
  previewStream :=
    { type := some .preview, width := 640, height := 480, format := halPixelFormatYCbCr420888 }

/-- ION memory of which the first `n` buffers of each manager can be had; the slots held something
before. -/
def ionMemory (n : ℕ) : Memory where
  library := .ion 356 fun _ j => if j < n then .memory 7 else .refused ⟨-1, by decide⟩
  stale := fun _ _ => true
  member := fun _ => (0, 0)
  jpegBufferSize := fun _ _ => 0

/-- A camera that opens and takes every configuration. -/
def willingCamera : CameraAnswers := ⟨true, false, true⟩

/-- The manager of an unsupported preview is never deleted, though there is memory enough; and the
destructor of one whose last allocation fails, for a size that the camera has, does not return. -/
theorem unsupported_preview_leaks :
    parseCommandlineAdd "id=0,psize=641x480,pformat=yuv420".toList {} = .ok (0, oddPreviewConfig) ∧
      oddPreviewConfig.testMode.map TestMode.testCase = some .previewOnly ∧
      (∃ t, runCase (ionMemory 12) vgaCharacteristics oddPreviewConfig .previewOnly willingCamera =
        some t ∧ t.created = [0] ∧ t.deleted = [] ∧ ¬ t.Released) ∧
      parseCommandlineAdd "id=0,psize=640x480,pformat=yuv420".toList {} =
        .ok (0, vgaPreviewConfig) ∧
      vgaPreviewConfig.testMode.map TestMode.testCase = some .previewOnly ∧
      (runCase (ionMemory 11) vgaCharacteristics vgaPreviewConfig .previewOnly
        willingCamera).isNone := by
  refine ⟨by decide +kernel, rfl, ?_, by decide +kernel, rfl, by decide +kernel⟩
  have hrun : (runCase (ionMemory 12) vgaCharacteristics oddPreviewConfig .previewOnly
      willingCamera).map (fun t => (t.created, t.deleted)) = some ([0], []) := by
    decide +kernel
  obtain ⟨t, ht, hlists⟩ := Option.map_eq_some_iff.mp hrun
  obtain ⟨hcreated, hdeleted⟩ := Prod.mk.inj hlists
  refine ⟨t, ht, hcreated, hdeleted, fun hreleased => ?_⟩
  have hone := hreleased 0 (by rw [hcreated]; decide)
  rw [hdeleted] at hone
  cases hone

end ManagerTable

end QCamx
