import QCamx.Buffer.Pool

/-!
# GBM buffers: buffer objects, descriptors and handles

`allocate_one_gbm_buffer` creates a buffer object, asks for its stride and size, and packs its
address into the handle; `free_all_buffers` unpacks it again. The allocator returns early after
the object has been created, and the handle is closed by `native_handle_close` after its descriptor
has been closed.

* `packBo`, `unpackBo`, **`unpackBo_packBo`**: the address in two signed words;
* **`exists_data_of_handle`**: the object in the handle is the one that is destroyed;
* `allocateOneGbm`, `freeAllBuffers`, `gbmRun`: calls, `destroy`, and any further
  `free_all_buffers`;
* **`count_log_gbmRun`**: what happens to the resources of a manager, slot by slot;
* **`balanced_iff`**: every resource is given back exactly once only if no descriptor was obtained
  and no call failed after its object was created;
* `gbm_closed_twice`: one buffer.
-/

namespace QCamx

open CountedLoop

/-! ## The address in the handle -/

/-- `data[1]` and `data[2]` of a handle, as `allocate_native_handle` packs them. -/
def packBo (bo : UInt64) : Int32 × Int32 :=
  (((bo >>> 32) &&& 0xFFFFFFFF).toUInt32.toInt32, (bo &&& 0xFFFFFFFF).toUInt32.toInt32)

/-- The address that `free_all_buffers` reads from `data[1]` and `data[2]`. -/
def unpackBo (data1 data2 : Int32) : UInt64 :=
  ((data1.toInt64.toUInt64 &&& 0xFFFFFFFF) <<< 32) ||| (data2.toInt64.toUInt64 &&& 0xFFFFFFFF)

theorem toNat_and_mask (x : UInt64) : (x &&& 0xFFFFFFFF).toNat = x.toNat % 2 ^ 32 := by
  rw [UInt64.toNat_and]
  exact Nat.and_two_pow_sub_one_eq_mod x.toNat 32

/-- The mask undoes the sign extension. -/
theorem and_mask_toInt64 (n : Int32) : n.toInt64.toUInt64 &&& 0xFFFFFFFF = n.toUInt32.toUInt64 := by
  have hback : n.toInt64.toUInt64.toUInt32 = n.toUInt32 := by
    apply UInt32.toBitVec_inj.mp
    have h := congrArg Int32.toBitVec (Int32.toInt32_toInt64 n)
    rw [Int64.toBitVec_toInt32, Int32.toBitVec_toInt64,
      BitVec.signExtend_eq_setWidth_of_le _ (by decide)] at h
    exact h
  apply UInt64.toNat_inj.mp
  rw [toNat_and_mask, ← UInt64.toNat_toUInt32, hback, UInt32.toNat_toUInt64]

theorem and_mask_and_mask (x : UInt64) :
    (x &&& 0xFFFFFFFF).toUInt32.toInt32.toInt64.toUInt64 &&& 0xFFFFFFFF = x &&& 0xFFFFFFFF := by
  rw [and_mask_toInt64]
  apply UInt64.toNat_inj.mp
  rw [UInt32.toUInt32_toInt32, UInt32.toNat_toUInt64, UInt64.toNat_toUInt32, toNat_and_mask,
    Nat.mod_mod]

/-- **The address comes back.** -/
theorem unpackBo_packBo (bo : UInt64) : unpackBo (packBo bo).1 (packBo bo).2 = bo := by
  simp only [unpackBo, packBo, and_mask_and_mask]
  apply UInt64.toNat_inj.mp
  have hbo := bo.toNat_lt
  have hshift : (32 : UInt64).toNat % 64 = 32 := by decide
  have hhigh : (bo >>> 32).toNat = bo.toNat / 2 ^ 32 := by
    rw [UInt64.toNat_shiftRight, hshift, Nat.shiftRight_eq_div_pow]
  have hlow : bo.toNat % 2 ^ 32 < 2 ^ 32 := Nat.mod_lt _ (by decide)
  have hhighlt : bo.toNat / 2 ^ 32 < 2 ^ 32 := by omega
  have hsum : (bo.toNat / 2 ^ 32) <<< 32 < 2 ^ 64 := by
    rw [Nat.shiftLeft_eq]
    omega
  rw [UInt64.toNat_or, UInt64.toNat_shiftLeft, toNat_and_mask, toNat_and_mask, hhigh, hshift,
    Nat.mod_eq_of_lt hhighlt, Nat.mod_eq_of_lt hsum, ← Nat.shiftLeft_add_eq_or_of_lt hlow,
    Nat.shiftLeft_eq]
  omega

/-- **The test before the object is freed is the one for NULL.** -/
theorem packBo_ne_zero_iff (bo : UInt64) :
    (packBo bo).1 ≠ 0 ∨ (packBo bo).2 ≠ 0 ↔ bo ≠ 0 := by
  constructor
  · rintro h rfl
    revert h
    decide
  · intro h
    by_contra hzero
    obtain ⟨h₁, h₂⟩ := not_or.mp hzero
    apply h
    rw [← unpackBo_packBo bo, of_not_not h₁, of_not_not h₂]
    decide

/-! ## Allocation -/

/-- What the library answers in one call of `allocate_one_gbm_buffer`. -/
structure GbmCall where
  /-- The object from `allocate_gbm_buffer_object`, by its address; `0` is NULL. -/
  object : UInt64
  /-- `gbm_bo_get_stride`. -/
  stride : UInt32
  /-- The result of `gbm_perform`; `0` is `GBM_ERROR_NONE`. -/
  sizeResult : Int32
  /-- Whether `native_handle_create` returns a handle. -/
  handleCreated : Bool
  /-- `gbm_bo_get_fd`, negative if it fails. -/
  fd : Int32
  deriving DecidableEq, Repr

/-- `allocate_native_handle` of an object that is not NULL; it writes to the handle before it looks
whether there is one. -/
def allocateNativeHandle (c : GbmCall) : Option NativeHandle :=
  if c.handleCreated then
    some { fds := [c.fd], ints := [(packBo c.object).1, (packBo c.object).2] }
  else none

/-- What a successful call has obtained. -/
def GbmCall.obtained (c : GbmCall) (i : ℕ) : List ResourceEvent :=
  [.boCreated c.object, .handleCreated i] ++ if 0 ≤ c.fd then [.fdObtained c.fd] else []

/-- `allocate_one_gbm_buffer`, for slot `i`; `stride * 3 / 2`, by which the size is divided, is zero
for one stride. -/
def allocateOneGbm (call : ℕ → GbmCall) (_isMetaBuf _isUBWC : UInt32) (i : ℕ) : Option Allocated :=
  let c := call i
  if c.object = 0 then some { rc := -12 }
  else if c.stride = 0 then some { rc := -22, events := [.boCreated c.object] }
  else if c.sizeResult ≠ 0 then some { rc := -22, events := [.boCreated c.object] }
  else
    (allocateNativeHandle c).bind fun h =>
      if c.stride * 3 / 2 = 0 then none
      else some { rc := 0, written := some (.handle h), events := c.obtained i }

/-! ## Release -/

/-- `free_gbm_buffer_object`. -/
def freeGbmBufferObject (bo : UInt64) : List ResourceEvent :=
  if bo ≠ 0 then [.boDestroyed bo] else []

/-- `native_handle_close`: every descriptor of the handle. -/
def nativeHandleClose (h : NativeHandle) : List ResourceEvent := h.fds.map .fdClosed

/-- What `free_all_buffers` does with the handle of slot `i`. -/
def freeHandle (i : ℕ) (h : NativeHandle) : Option (List ResourceEvent) :=
  match h.fds ++ h.ints with
  | data0 :: data1 :: data2 :: _ =>
      some ((if data1 ≠ 0 ∨ data2 ≠ 0 then
          .fdClosed data0 :: freeGbmBufferObject (unpackBo data1 data2) else []) ++
        nativeHandleClose h ++ [.handleDeleted i])
  | _ => none

/-- What `free_all_buffers` does with slot `i`: nothing for NULL, and what is `stale` is not the
address of a handle. -/
def freeSlot (i : ℕ) : Slot → Option (List ResourceEvent)
  | .null => some []
  | .stale => none
  | .handle h => freeHandle i h

theorem freeSlot_null (i : ℕ) : freeSlot i .null = some [] := rfl

/-- **The handle carries the object.** For every address, what `free_all_buffers` reads from the two
words of the handle is that address, its test is the one for NULL, and it destroys the object once
and no other. -/
theorem exists_data_of_handle (p : UInt64) (c : GbmCall) (i : ℕ) :
    ∃ data1 data2 es,
      allocateNativeHandle { c with object := p, handleCreated := true } =
          some { fds := [c.fd], ints := [data1, data2] } ∧
        unpackBo data1 data2 = p ∧ (data1 ≠ 0 ∨ data2 ≠ 0 ↔ p ≠ 0) ∧
        freeHandle i { fds := [c.fd], ints := [data1, data2] } = some es ∧
        ∀ bo, es.count (.boDestroyed bo) = if p ≠ 0 ∧ bo = p then 1 else 0 := by
  refine ⟨(packBo p).1, (packBo p).2, _, rfl, unpackBo_packBo p, packBo_ne_zero_iff p, rfl, ?_⟩
  intro bo
  rw [unpackBo_packBo, freeGbmBufferObject, if_congr (packBo_ne_zero_iff p) rfl rfl]
  by_cases hp : p = 0
  · simp [hp, nativeHandleClose]
  · simp [hp, nativeHandleClose, List.count_cons, eq_comm (a := bo)]

namespace Pool

variable (free : ℕ → Slot → Option (List ResourceEvent))

/-- One round of the loop of `free_all_buffers`; `free` is what the build does with a slot. -/
def freeStep (p : Pool) (i : ℕ) : Option Pool :=
  if h : i < bufferQueueDepth then
    (free i p.buffers[i]).map fun es =>
      { p with buffers := p.buffers.set i .null h, log := p.log ++ es }
  else none

/-- `free_all_buffers`. -/
def freeAllBuffers (p : Pool) : Option Pool := loop (freeStep free) p.numOfBuffers p

/-- `destroy`. -/
def destroy (p : Pool) : Option Pool := freeAllBuffers free p

/-- `free_all_buffers`, `k` times. -/
def freeTimes : ℕ → Pool → Option Pool
  | 0, p => some p
  | k + 1, p => (freeAllBuffers free p).bind (freeTimes k)

end Pool

/-- `n` calls of `allocate_one_gbm_buffer` on a new manager, `destroy`, and `k` further calls of
`free_all_buffers`; `member` is what `_is_meta_buf` and `_is_UWBC` hold at first, and `arg` what
they are set to. -/
def gbmRun (call : ℕ → GbmCall) (n k : ℕ) (stale : ℕ → Bool) (member arg : UInt32 × UInt32) :
    Option Pool :=
  ((Pool.new stale member.1 member.2).allocateBuffers (allocateOneGbm call) n arg.1 arg.2).bind
    fun r => (r.2.destroy freeSlot).bind (Pool.freeTimes freeSlot k)

/-! ## What the frees do -/

namespace Pool

variable {free : ℕ → Slot → Option (List ResourceEvent)} {m : ℕ} {p q : Pool}

/-- What a round of `free_all_buffers` does at slot `i`. -/
def freeAt (free : ℕ → Slot → Option (List ResourceEvent)) (p : Pool) (i : ℕ) :
    Option (List ResourceEvent) :=
  (p.buffers[i]?).bind (free i)

/-- The pool `q` is `p` after `m` rounds of `free_all_buffers`. -/
structure FreedBy (free : ℕ → Slot → Option (List ResourceEvent)) (m : ℕ) (p q : Pool) :
    Prop where
  returns : ∀ i < m, (p.freeAt free i).isSome
  buffers : ∀ j (h : j < bufferQueueDepth),
    q.buffers[j] = if j < m then .null else p.buffers[j]
  numOfBuffers : q.numOfBuffers = p.numOfBuffers
  log : q.log = p.log ++ (List.range m).flatMap fun i => (p.freeAt free i).getD []

theorem freeAt_of_lt {i : ℕ} (hi : i < bufferQueueDepth) :
    p.freeAt free i = free i p.buffers[i] := by
  rw [freeAt, Vector.getElem?_eq_getElem hi, Option.bind_some]

theorem freeAt_of_ge {i : ℕ} (hi : bufferQueueDepth ≤ i) : p.freeAt free i = none := by
  rw [freeAt, Vector.getElem?_eq_none hi, Option.bind_none]

theorem FreedBy.freeAt_eq (h : FreedBy free m p q) {i : ℕ} (hi : m ≤ i) :
    q.freeAt free i = p.freeAt free i := by
  rcases Nat.lt_or_ge i bufferQueueDepth with hlt | hge
  · rw [freeAt_of_lt hlt, freeAt_of_lt hlt, h.buffers i hlt, if_neg (by omega)]
  · rw [freeAt_of_ge hge, freeAt_of_ge hge]

theorem isSome_freeStep {i : ℕ} : (freeStep free q i).isSome ↔ (q.freeAt free i).isSome := by
  rw [freeStep]
  rcases Nat.lt_or_ge i bufferQueueDepth with hlt | hge
  · rw [dif_pos hlt, freeAt_of_lt hlt, Option.isSome_map]
  · rw [dif_neg (by omega), freeAt_of_ge hge]
    simp

theorem freeStep_eq_some {i : ℕ} {q' : Pool} (h : freeStep free q i = some q') :
    ∃ (hi : i < bufferQueueDepth) (es : List ResourceEvent), q.freeAt free i = some es ∧
      q' = { q with buffers := q.buffers.set i .null hi, log := q.log ++ es } := by
  rw [freeStep] at h
  rcases Nat.lt_or_ge i bufferQueueDepth with hlt | hge
  · rw [dif_pos hlt] at h
    obtain ⟨es, hes, hq'⟩ := Option.map_eq_some_iff.mp h
    exact ⟨hlt, es, by rw [freeAt_of_lt hlt, hes], hq'.symm⟩
  · rw [dif_neg (by omega)] at h
    cases h

theorem FreedBy.step (h : FreedBy free m p q) {q' : Pool} (hs : freeStep free q m = some q') :
    FreedBy free (m + 1) p q' := by
  obtain ⟨hm, es, hes, rfl⟩ := freeStep_eq_some hs
  rw [h.freeAt_eq le_rfl] at hes
  constructor
  · intro i hi
    rcases Nat.lt_succ_iff_lt_or_eq.mp hi with hlt | rfl
    · exact h.returns i hlt
    · rw [hes]
      rfl
  · intro j hj
    simp only [Vector.getElem_set, h.buffers j hj]
    by_cases hjm : m = j
    · rw [if_pos hjm, if_pos (by omega)]
    · rw [if_neg hjm]
      exact if_congr (by omega) rfl rfl
  · exact h.numOfBuffers
  · simp only [h.log, List.range_succ, List.flatMap_append, List.flatMap_singleton, hes,
      Option.getD_some, List.append_assoc]

theorem FreedBy.refl : FreedBy free 0 p p := ⟨by simp, fun j hj => rfl, rfl, by simp⟩

/-- **What the frees leave.** -/
theorem freedBy_of_loop (h : loop (freeStep free) m p = some q) : FreedBy free m p q :=
  loop_invariant (fun m q => FreedBy free m p q) h FreedBy.refl fun _ _ _ _ hq hs => hq.step hs

theorem exists_freedBy (h : ∀ i < m, (p.freeAt free i).isSome) :
    ∃ q, loop (freeStep free) m p = some q ∧ FreedBy free m p q := by
  refine exists_loop (fun m q => FreedBy free m p q) FreedBy.refl fun i hi q hq => ?_
  have hsome : (freeStep free q i).isSome := by
    rw [isSome_freeStep, hq.freeAt_eq le_rfl]
    exact h i hi
  obtain ⟨r, hr⟩ := Option.isSome_iff_exists.mp hsome
  exact ⟨r, hr, hq.step hr⟩

theorem FreedBy.freeAt_eq_nil (h : FreedBy free m p q) (hnull : ∀ i, free i .null = some [])
    {i : ℕ} (hi : i < m) : q.freeAt free i = some [] := by
  have hlt : i < bufferQueueDepth := by
    by_contra hge
    have hreturns := h.returns i hi
    rw [freeAt_of_ge (by omega)] at hreturns
    simp at hreturns
  rw [freeAt_of_lt hlt, h.buffers i hlt, if_pos hi, hnull]

/-- **Once everything is freed, a further `free_all_buffers` does nothing.** -/
theorem exists_freeTimes (hnull : ∀ i, free i .null = some []) (k : ℕ)
    (hq : ∀ i < q.numOfBuffers, q.freeAt free i = some []) :
    ∃ r, q.freeTimes free k = some r ∧ r.log = q.log := by
  induction k generalizing q with
  | zero => exact ⟨q, rfl, rfl⟩
  | succ k ih =>
      obtain ⟨r, hr, hfreed⟩ := exists_freedBy fun i hi => by rw [hq i hi]; rfl
      have hlog : r.log = q.log := by
        have hnil : ∀ i ∈ List.range q.numOfBuffers, (q.freeAt free i).getD [] = [] := by
          intro i hi
          rw [hq i (List.mem_range.mp hi)]
          rfl
        rw [hfreed.log, List.flatMap_eq_nil_iff.mpr hnil, List.append_nil]
      obtain ⟨r', hr', hlog'⟩ := ih fun i hi =>
        hfreed.freeAt_eq_nil hnull (hfreed.numOfBuffers ▸ hi)
      refine ⟨r', ?_, hlog'.trans hlog⟩
      rw [freeTimes, freeAllBuffers, hr, Option.bind_some, hr']

end Pool

/-! ## A whole run -/

/-- A call that fails after its object was created. -/
def GbmCall.Leaks (c : GbmCall) : Prop := c.object ≠ 0 ∧ (c.stride = 0 ∨ c.sizeResult ≠ 0)

/-- A call that gets everything. -/
def GbmCall.Succeeds (c : GbmCall) : Prop :=
  c.object ≠ 0 ∧ c.stride ≠ 0 ∧ c.sizeResult = 0 ∧ c.handleCreated ∧ c.stride * 3 / 2 ≠ 0

instance (c : GbmCall) : Decidable c.Succeeds := by unfold GbmCall.Succeeds; infer_instance

instance (c : GbmCall) : Decidable c.Leaks := by unfold GbmCall.Leaks; infer_instance

/-- The handle of a successful call. -/
def GbmCall.handle (c : GbmCall) : NativeHandle :=
  { fds := [c.fd], ints := [(packBo c.object).1, (packBo c.object).2] }

/-- What is done with the handle of a successful call: its descriptor is closed twice. -/
def GbmCall.released (c : GbmCall) (i : ℕ) : List ResourceEvent :=
  [.fdClosed c.fd, .boDestroyed c.object, .fdClosed c.fd, .handleDeleted i]

theorem freeHandle_handle {c : GbmCall} (hc : c.Succeeds) (i : ℕ) :
    freeHandle i c.handle = some (c.released i) := by
  have hguard : (packBo c.object).1 ≠ 0 ∨ (packBo c.object).2 ≠ 0 :=
    (packBo_ne_zero_iff c.object).mpr hc.1
  simp only [freeHandle, GbmCall.handle, List.singleton_append, if_pos hguard, unpackBo_packBo,
    freeGbmBufferObject, if_pos hc.1, nativeHandleClose, List.map_cons, List.map_nil]
  rfl

/-- **The three ways in which a call returns.** -/
theorem allocateOneGbm_eq_some_iff {call : ℕ → GbmCall} {isMetaBuf isUBWC : UInt32} {i : ℕ}
    {a : Allocated} :
    allocateOneGbm call isMetaBuf isUBWC i = some a ↔
      ((call i).object = 0 ∧ a = { rc := -12 }) ∨
      ((call i).Leaks ∧ a = { rc := -22, events := [.boCreated (call i).object] }) ∨
      ((call i).Succeeds ∧ a = {
        rc := 0, written := some (.handle (call i).handle), events := (call i).obtained i }) := by
  rw [allocateOneGbm, GbmCall.Leaks, GbmCall.Succeeds]
  by_cases hobject : (call i).object = 0
  · simp [hobject, eq_comm (a := a)]
  by_cases hstride : (call i).stride = 0
  · simp [hobject, hstride, eq_comm (a := a)]
  by_cases hsize : (call i).sizeResult = 0
  · cases hhandle : (call i).handleCreated with
    | false => simp [hobject, hstride, hsize, hhandle, allocateNativeHandle]
    | true =>
        by_cases hdiv : (call i).stride * 3 / 2 = 0
        · simp [hobject, hstride, hsize, hhandle, hdiv, allocateNativeHandle]
        · simp [hobject, hstride, hsize, hhandle, hdiv, allocateNativeHandle, GbmCall.handle,
            eq_comm (a := a)]
  · simp [hobject, hstride, hsize, eq_comm (a := a)]

/-- What an untouched slot of a new manager holds. -/
def newSlot (stale : Bool) : Slot := if stale then .stale else .null

/-- A call does not end in undefined behaviour, neither itself nor when its slot is freed: where it
leaves the slot untouched, that has to be NULL. -/
def GbmCall.Returns (c : GbmCall) (stale : Bool) : Prop :=
  ((c.object = 0 ∨ c.Leaks) ∧ stale = false) ∨ c.Succeeds

/-- All that happens to the resources of one call. -/
def GbmCall.history (c : GbmCall) (i : ℕ) : List ResourceEvent :=
  if c.Succeeds then c.obtained i ++ c.released i
  else if c.Leaks then [.boCreated c.object]
  else []

theorem GbmCall.Leaks.not_succeeds {c : GbmCall} (h : c.Leaks) : ¬ c.Succeeds := by
  rintro ⟨-, hstride, hsize, -⟩
  rcases h.2 with h | h
  · exact hstride h
  · exact h hsize

section Slot

variable {call : ℕ → GbmCall} {isMetaBuf isUBWC : UInt32} {i : ℕ} {stale : Bool}

/-- **The history of a slot**, from the call and the free. -/
theorem history_of_isSome {a : Allocated} (ha : allocateOneGbm call isMetaBuf isUBWC i = some a)
    (hfree : (freeSlot i (a.written.getD (newSlot stale))).isSome) :
    (call i).Returns stale ∧
      (call i).history i = a.events ++ (freeSlot i (a.written.getD (newSlot stale))).getD [] := by
  have hnew : (freeSlot i (newSlot stale)).isSome → stale = false := by
    cases stale <;> simp [newSlot, freeSlot]
  rcases allocateOneGbm_eq_some_iff.mp ha with ⟨hobject, rfl⟩ | ⟨hleaks, rfl⟩ | ⟨hsucceeds, rfl⟩
  · obtain rfl := hnew hfree
    have hnot : ¬ (call i).Leaks := fun h => h.1 hobject
    have hnot' : ¬ (call i).Succeeds := fun h => h.1 hobject
    exact ⟨.inl ⟨.inl hobject, rfl⟩, by rw [GbmCall.history, if_neg hnot', if_neg hnot]; rfl⟩
  · obtain rfl := hnew hfree
    refine ⟨.inl ⟨.inr hleaks, rfl⟩, ?_⟩
    rw [GbmCall.history, if_neg hleaks.not_succeeds, if_pos hleaks]
    rfl
  · refine ⟨.inr hsucceeds, ?_⟩
    rw [GbmCall.history, if_pos hsucceeds, Option.getD_some, freeSlot, freeHandle_handle hsucceeds,
      Option.getD_some]

theorem exists_of_returns (h : (call i).Returns stale) :
    ∃ a, allocateOneGbm call isMetaBuf isUBWC i = some a ∧
      (freeSlot i (a.written.getD (newSlot stale))).isSome := by
  rcases h with ⟨hobject | hleaks, rfl⟩ | hsucceeds
  · exact ⟨_, allocateOneGbm_eq_some_iff.mpr (.inl ⟨hobject, rfl⟩), rfl⟩
  · exact ⟨_, allocateOneGbm_eq_some_iff.mpr (.inr (.inl ⟨hleaks, rfl⟩)), rfl⟩
  · refine ⟨_, allocateOneGbm_eq_some_iff.mpr (.inr (.inr ⟨hsucceeds, rfl⟩)), ?_⟩
    rw [Option.getD_some, freeSlot, freeHandle_handle hsucceeds]
    rfl

end Slot

section Run

variable {call : ℕ → GbmCall} {n k : ℕ} {stale : ℕ → Bool} {member arg : UInt32 × UInt32}

theorem freeAt_filledBy (free : ℕ → Slot → Option (List ResourceEvent)) {a : ℕ → Allocated}
    {p : Pool} (h : (Pool.new stale member.1 member.2).FilledBy a n p) {i : ℕ} (hi : i < n)
    (hlt : i < bufferQueueDepth) :
    p.freeAt free i = free i ((a i).written.getD (newSlot (stale i))) := by
  have hnew : (Pool.new stale member.1 member.2).buffers[i] = newSlot (stale i) := by
    simp only [Pool.new, Vector.getElem_ofFn, newSlot]
  rw [Pool.freeAt_of_lt hlt, h.buffers i hlt, if_pos hi, hnew]

theorem gbmRun_eq_some {q : Pool} (h : gbmRun call n k stale member arg = some q) :
    ∃ (a : ℕ → Allocated) (p p' : Pool),
      (∀ i < n, allocateOneGbm call member.1 member.2 i = some (a i)) ∧
      (Pool.new stale member.1 member.2).FilledBy a n p ∧ p.FreedBy freeSlot n p' ∧
      q.log = p'.log := by
  obtain ⟨⟨rc, p₀⟩, hr, h⟩ := Option.bind_eq_some_iff.mp h
  obtain ⟨p', hp', hk⟩ := Option.bind_eq_some_iff.mp h
  obtain ⟨a, p, hone, hfilled, rfl⟩ := Pool.exists_filledBy hr
  have hfreed := Pool.freedBy_of_loop hp'
  have hnum : p.numOfBuffers = n := hfilled.numOfBuffers.trans (Nat.zero_add n)
  obtain ⟨r, hr, hlog⟩ := Pool.exists_freeTimes freeSlot_null k fun i hi =>
    hfreed.freeAt_eq_nil freeSlot_null (hfreed.numOfBuffers ▸ hi)
  obtain rfl := Option.some.inj (hk.symm.trans hr)
  have hfreed' : p.FreedBy freeSlot n p' := by
    rw [← hnum]
    exact ⟨hfreed.returns, hfreed.buffers, hfreed.numOfBuffers, hfreed.log⟩
  exact ⟨a, p, p', hone, hfilled, hfreed', hlog⟩

/-- **What happens to the resources of a manager**, slot by slot. -/
theorem count_log_gbmRun {q : Pool} (h : gbmRun call n k stale member arg = some q) :
    (∀ i < n, i < bufferQueueDepth ∧ (call i).Returns (stale i)) ∧
      ∀ e, q.log.count e = ∑ i ∈ Finset.range n, ((call i).history i).count e := by
  obtain ⟨a, p, p', hone, hfilled, hfreed, hlog⟩ := gbmRun_eq_some h
  have hlt : ∀ i < n, i < bufferQueueDepth := by
    intro i hi
    by_contra hge
    have hreturns := hfreed.returns i hi
    rw [Pool.freeAt_of_ge (by omega)] at hreturns
    simp at hreturns
  have hslot : ∀ i < n, (call i).Returns (stale i) ∧
      (call i).history i = (a i).events ++ (p.freeAt freeSlot i).getD [] := by
    intro i hi
    have hreturns := hfreed.returns i hi
    rw [freeAt_filledBy freeSlot hfilled hi (hlt i hi)] at hreturns ⊢
    exact history_of_isSome (hone i hi) hreturns
  refine ⟨fun i hi => ⟨hlt i hi, (hslot i hi).1⟩, fun e => ?_⟩
  have hsum : ∀ f : ℕ → List ResourceEvent,
      ((List.range n).flatMap f).count e = ∑ i ∈ Finset.range n, (f i).count e := by
    intro f
    rw [List.count_flatMap]
    rfl
  have hnew : (Pool.new stale member.1 member.2).log = [] := rfl
  have hhistory : ∑ i ∈ Finset.range n, ((call i).history i).count e =
      ∑ i ∈ Finset.range n, ((a i).events.count e + ((p.freeAt freeSlot i).getD []).count e) := by
    refine Finset.sum_congr rfl fun i hi => ?_
    rw [(hslot i (Finset.mem_range.mp hi)).2, List.count_append]
  rw [hlog, hfreed.log, hfilled.log, hnew, List.nil_append, List.count_append, hsum, hsum, hhistory,
    Finset.sum_add_distrib]

theorem exists_gbmRun (k : ℕ) (member arg : UInt32 × UInt32)
    (h : ∀ i < n, i < bufferQueueDepth ∧ (call i).Returns (stale i)) :
    ∃ q, gbmRun call n k stale member arg = some q := by
  have hcall : ∀ i, ∃ a, i < n → allocateOneGbm call member.1 member.2 i = some a ∧
      (freeSlot i (a.written.getD (newSlot (stale i)))).isSome := by
    intro i
    by_cases hi : i < n
    · obtain ⟨a, ha⟩ := exists_of_returns (h i hi).2
      exact ⟨a, fun _ => ha⟩
    · exact ⟨⟨0, none, []⟩, fun hlt => absurd hlt hi⟩
  choose a ha using hcall
  have hone : ∀ i < n, allocateOneGbm call (Pool.new stale member.1 member.2).isMetaBuf
      (Pool.new stale member.1 member.2).isUBWC i = some (a i) := fun i hi => (ha i hi).1
  obtain ⟨p, hfilled, hp⟩ := Pool.filledBy_allocateBuffers hone (fun i hi _ => (h i hi).1)
    arg.1 arg.2
  have hnum : p.numOfBuffers = n := hfilled.numOfBuffers.trans (Nat.zero_add n)
  have hreturns : ∀ i < p.numOfBuffers,
      (Pool.freeAt freeSlot { p with isMetaBuf := arg.1, isUBWC := arg.2 } i).isSome := by
    intro i hi
    have hin : i < n := hnum ▸ hi
    have hfree := (ha i hin).2
    rwa [← freeAt_filledBy freeSlot hfilled hin (h i hin).1] at hfree
  obtain ⟨p', hp', hfreed⟩ := Pool.exists_freedBy hreturns
  obtain ⟨q, hq, -⟩ := Pool.exists_freeTimes freeSlot_null k fun i hi =>
    hfreed.freeAt_eq_nil freeSlot_null (hfreed.numOfBuffers ▸ hi)
  refine ⟨q, ?_⟩
  rw [gbmRun, hp, Option.bind_some, Pool.destroy, Pool.freeAllBuffers]
  simp only [hp', Option.bind_some, hq]

end Run

/-! ## Balance -/

/-- Each `acquired` is followed by as many `released` as there are of it. -/
def ReleasedOnce (log : List ResourceEvent) (acquired released : ResourceEvent) : Prop :=
  acquired ∈ log → log.count released = log.count acquired

/-- Every buffer object, descriptor and handle is given back exactly once. -/
structure Balanced (log : List ResourceEvent) : Prop where
  object : ∀ bo, ReleasedOnce log (.boCreated bo) (.boDestroyed bo)
  fd : ∀ fd, ReleasedOnce log (.fdObtained fd) (.fdClosed fd)
  handle : ∀ i, ReleasedOnce log (.handleCreated i) (.handleDeleted i)

/-- A call obtains no descriptor and no object that it loses: it gets no object, where its slot is
NULL, or it succeeds without a descriptor. -/
def GbmCall.Settles (c : GbmCall) (stale : Bool) : Prop :=
  (c.object = 0 ∧ stale = false) ∨ (c.Succeeds ∧ c.fd < 0)

/-! The counts of one slot. -/

section Slot

variable {c : GbmCall} {i : ℕ}

theorem count_boDestroyed (bo : UInt64) :
    ((c.history i).count (.boCreated bo) =
      (c.history i).count (.boDestroyed bo) + if c.Leaks ∧ c.object = bo then 1 else 0) := by
  rw [GbmCall.history]
  by_cases hs : c.Succeeds
  · have hnot : ¬ c.Leaks := fun h => h.not_succeeds hs
    rw [if_pos hs, GbmCall.obtained, GbmCall.released, if_neg (not_and_of_not_left _ hnot)]
    split_ifs <;> simp [List.count_cons]
  · by_cases hl : c.Leaks <;> simp [hs, hl, List.count_cons]

/-- A descriptor is closed twice. -/
theorem count_fdClosed {fd : Int32} (hfd : 0 ≤ fd) :
    (c.history i).count (.fdClosed fd) = 2 * (c.history i).count (.fdObtained fd) := by
  rw [GbmCall.history, GbmCall.obtained, GbmCall.released]
  by_cases heq : c.fd = fd
  · subst heq
    split_ifs <;> simp
  · split_ifs <;> simp [heq]

theorem count_handleDeleted (j : ℕ) :
    (c.history i).count (.handleDeleted j) = (c.history i).count (.handleCreated j) := by
  rw [GbmCall.history, GbmCall.obtained, GbmCall.released]
  split_ifs <;> simp [List.count_cons]

end Slot

section Balance

variable {call : ℕ → GbmCall} {n k : ℕ} {stale : ℕ → Bool} {member arg : UInt32 × UInt32}

theorem not_leaks_of_balanced {log : List ResourceEvent}
    (hcount : ∀ e, log.count e = ∑ i ∈ Finset.range n, ((call i).history i).count e)
    (hbalanced : Balanced log) {i : ℕ} (hi : i ∈ Finset.range n) : ¬ (call i).Leaks := by
  intro hleaks
  have hlt : log.count (.boDestroyed (call i).object) < log.count (.boCreated (call i).object) := by
    rw [hcount, hcount]
    refine Finset.sum_lt_sum (fun j _ => ?_) ⟨i, hi, ?_⟩
    · rw [count_boDestroyed]
      exact Nat.le_add_right _ _
    · rw [count_boDestroyed (c := call i) (call i).object, if_pos ⟨hleaks, rfl⟩]
      exact Nat.lt_succ_self _
  have hmem : ResourceEvent.boCreated (call i).object ∈ log :=
    List.count_pos_iff.mp (by omega)
  have := hbalanced.object _ hmem
  omega

theorem not_obtained_of_balanced {log : List ResourceEvent}
    (hcount : ∀ e, log.count e = ∑ i ∈ Finset.range n, ((call i).history i).count e)
    (hbalanced : Balanced log) {i : ℕ} (hi : i ∈ Finset.range n) (hsucceeds : (call i).Succeeds) :
    ¬ 0 ≤ (call i).fd := by
  intro hfd
  have htwice : log.count (.fdClosed (call i).fd) = 2 * log.count (.fdObtained (call i).fd) := by
    rw [hcount, hcount, Finset.mul_sum]
    exact Finset.sum_congr rfl fun j _ => count_fdClosed hfd
  have hone : 0 < ((call i).history i).count (.fdObtained (call i).fd) := by
    rw [GbmCall.history, if_pos hsucceeds, GbmCall.obtained, if_pos hfd]
    simp
  have hpos : 0 < log.count (.fdObtained (call i).fd) := by
    rw [hcount]
    exact Finset.sum_pos' (fun j _ => Nat.zero_le _) ⟨i, hi, hone⟩
  have := hbalanced.fd _ (List.count_pos_iff.mp hpos)
  omega

theorem GbmCall.Settles.returns {c : GbmCall} {stale : Bool} (h : c.Settles stale) :
    c.Returns stale := by
  rcases h with ⟨hobject, hstale⟩ | ⟨hsucceeds, -⟩
  · exact .inl ⟨.inl hobject, hstale⟩
  · exact .inr hsucceeds

theorem GbmCall.Settles.not_leaks {c : GbmCall} {stale : Bool} (h : c.Settles stale) :
    ¬ c.Leaks := by
  intro hleaks
  rcases h with ⟨hobject, -⟩ | ⟨hsucceeds, -⟩
  · exact hleaks.1 hobject
  · exact hleaks.not_succeeds hsucceeds

theorem GbmCall.Settles.count_fdObtained {c : GbmCall} {stale : Bool} (h : c.Settles stale) (i : ℕ)
    (fd : Int32) : (c.history i).count (.fdObtained fd) = 0 := by
  rw [GbmCall.history, if_neg h.not_leaks]
  by_cases hs : c.Succeeds
  · have hfd : ¬ 0 ≤ c.fd := by
      rcases h with ⟨hobject, -⟩ | ⟨-, hfd⟩
      · exact absurd hobject hs.1
      · exact Int32.not_le.mpr hfd
    rw [if_pos hs, GbmCall.obtained, if_neg hfd, GbmCall.released]
    simp
  · rw [if_neg hs, List.count_nil]

theorem balanced_of_settles {log : List ResourceEvent}
    (hcount : ∀ e, log.count e = ∑ i ∈ Finset.range n, ((call i).history i).count e)
    (h : ∀ i < n, (call i).Settles (stale i)) : Balanced log := by
  constructor
  · intro bo _
    rw [hcount, hcount]
    refine Finset.sum_congr rfl fun i hi => ?_
    rw [count_boDestroyed, if_neg, Nat.add_zero]
    exact fun hc => (h i (Finset.mem_range.mp hi)).not_leaks hc.1
  · intro fd hmem
    have hpos := List.count_pos_iff.mpr hmem
    rw [hcount] at hpos
    obtain ⟨i, hi, hne⟩ := Finset.exists_ne_zero_of_sum_ne_zero (Nat.pos_iff_ne_zero.mp hpos)
    exact absurd ((h i (Finset.mem_range.mp hi)).count_fdObtained i fd) hne
  · intro j _
    rw [hcount, hcount]
    exact Finset.sum_congr rfl fun i _ => count_handleDeleted j

/-- **Every resource is given back exactly once** if and only if no call gets an object and fails or
gets a descriptor. -/
theorem balanced_iff :
    (∃ q, gbmRun call n k stale member arg = some q ∧ Balanced q.log) ↔
      ∀ i < n, i < bufferQueueDepth ∧ (call i).Settles (stale i) := by
  constructor
  · rintro ⟨q, hq, hbalanced⟩ i hi
    obtain ⟨hreturns, hcount⟩ := count_log_gbmRun hq
    obtain ⟨hlt, hreturn⟩ := hreturns i hi
    refine ⟨hlt, ?_⟩
    have hmem : i ∈ Finset.range n := Finset.mem_range.mpr hi
    rcases hreturn with ⟨hobject | hleaks, hstale⟩ | hsucceeds
    · exact .inl ⟨hobject, hstale⟩
    · exact absurd hleaks (not_leaks_of_balanced hcount hbalanced hmem)
    · exact .inr ⟨hsucceeds, Int32.not_le.mp (not_obtained_of_balanced hcount hbalanced hmem
        hsucceeds)⟩
  · intro h
    obtain ⟨q, hq⟩ := exists_gbmRun k member arg fun i hi =>
      ⟨(h i hi).1, (h i hi).2.returns⟩
    exact ⟨q, hq, balanced_of_settles (count_log_gbmRun hq).2 fun i hi => (h i hi).2⟩

end Balance

/-- A call that gets an object of stride 640 and the descriptor 5. -/
def oneObject : GbmCall := ⟨0x7f0000001000, 640, 0, true, 5⟩

/-- One buffer, allocated and freed: descriptor 5 is closed twice. -/
theorem gbm_closed_twice :
    ¬ ∃ q, gbmRun (fun _ => oneObject) 1 0 (fun _ => false) (0, 0) (0, 0) = some q ∧
      Balanced q.log := by
  rintro ⟨q, hq, hbalanced⟩
  have hmem : 0 ∈ Finset.range 1 := by decide
  exact not_obtained_of_balanced (count_log_gbmRun hq).2 hbalanced hmem (by decide) (by decide)

end QCamx
