import QCamx.Device.State

/-!
# The ledger of pending requests

What `_pending_vector` is for, without the threads: the HAL owes for every accepted request its
buffers and its metadata; results bring them in any order and any number of parts; a record counts
what came, and is deleted by the part that completes it.

* `total`, `buffers`, `metadata`: what a multiset of results brings for one frame;
* `Ledger`, `IsPending`, `IsReleased`, and the invariant **`Ledger.Valid`**: each accepted request
  is either pending with exact counters or released once with all of its buffers counted;
* `Valid.setPending`, `Valid.submit`, `Valid.call`, `Valid.count`: the operations keep it.
-/

namespace QCamx

/-! ## What results bring -/

/-- The sum of `f` over the results for frame `n`. -/
def total (f : CaptureResult → ℕ) (n : ℕ) (rs : Multiset CaptureResult) : ℕ :=
  (rs.map fun r => if r.frameNumber = n then f r else 0).sum

@[simp] theorem total_cons (f : CaptureResult → ℕ) (n : ℕ) (r : CaptureResult)
    (rs : Multiset CaptureResult) :
    total f n (r ::ₘ rs) = (if r.frameNumber = n then f r else 0) + total f n rs := by
  simp [total]

theorem total_eq_zero {f : CaptureResult → ℕ} {n : ℕ} {rs : Multiset CaptureResult}
    (h : ∀ r ∈ rs, r.frameNumber = n → f r = 0) : total f n rs = 0 := by
  refine Multiset.sum_eq_zero fun k hk => ?_
  obtain ⟨r, hr, rfl⟩ := Multiset.mem_map.mp hk
  split_ifs with hn
  · exact h r hr hn
  · rfl

theorem le_total_of_mem {f : CaptureResult → ℕ} {r : CaptureResult}
    {rs : Multiset CaptureResult} (h : r ∈ rs) : f r ≤ total f r.frameNumber rs := by
  rw [← Multiset.cons_erase h, total_cons, if_pos rfl]
  omega

/-- The number of output buffers that results bring for frame `n`. -/
def buffers (n : ℕ) (rs : Multiset CaptureResult) : ℕ :=
  total (fun r => r.outputBuffers.length) n rs

/-- The sum of the `partial_result` values that results bring for frame `n`. -/
def metadata (n : ℕ) (rs : Multiset CaptureResult) : ℕ :=
  total (fun r => r.partialResult.toNat) n rs

/-- The number of buffers held for frame `n`. -/
def heldFor (n : ℕ) (inFlight : Multiset (ℕ × StreamBuffer)) : ℕ :=
  inFlight.countP (·.1 = n)

/-! ## The counters of a record -/

/-- The counters of the record of frame `n`, of a request for `B` buffers, after `rs`. -/
structure Counts (rs : Multiset CaptureResult) (n B : ℕ) (pend : RequestPending) : Prop where
  requested : pend.request.numOutputBuffers = UInt32.ofNat B
  numOutputBuffer : pend.numOutputBuffer = UInt32.ofNat (buffers n rs)
  numMetadata : pend.numMetadata = (UInt32.ofNat (metadata n rs)).toInt32

theorem Counts.cons_of_ne {rs : Multiset CaptureResult} {n B : ℕ} {pend : RequestPending}
    (h : Counts rs n B pend) {r : CaptureResult} (hr : r.frameNumber ≠ n) :
    Counts (r ::ₘ rs) n B pend := by
  have hb : buffers n (r ::ₘ rs) = buffers n rs := by simp [buffers, hr]
  have hm : metadata n (r ::ₘ rs) = metadata n rs := by simp [metadata, hr]
  exact ⟨h.requested, by rw [hb, h.numOutputBuffer], by rw [hm, h.numMetadata]⟩

theorem Counts.countResult {rs : Multiset CaptureResult} {n B : ℕ} {pend : RequestPending}
    (h : Counts rs n B pend) {r : CaptureResult} (hr : r.frameNumber = n) :
    Counts (r ::ₘ rs) n B (countResult r pend) := by
  have hb : buffers n (r ::ₘ rs) = buffers n rs + r.outputBuffers.length := by
    simp [buffers, hr, Nat.add_comm]
  have hm : metadata n (r ::ₘ rs) = metadata n rs + r.partialResult.toNat := by
    simp [metadata, hr, Nat.add_comm]
  refine ⟨h.requested, ?_, ?_⟩
  · show pend.numOutputBuffer + _ = _
    rw [hb, h.numOutputBuffer, UInt32.ofNat_add]
  · show pend.numMetadata + _ = _
    rw [hm, h.numMetadata, UInt32.ofNat_add, UInt32.toInt32_add, UInt32.ofNat_toNat]

theorem toInt32_eq_zero_iff (x : UInt32) : x.toInt32 = 0 ↔ x.toNat = 0 := by
  constructor
  · intro h
    have hx : x = (0 : Int32).toUInt32 := by rw [← h, UInt32.toUInt32_toInt32]
    rw [hx]
    rfl
  · intro h
    have hx : x = 0 := UInt32.toNat_inj.mp h
    rw [hx]
    rfl

/-- **When the counters complete a request.** -/
theorem Counts.complete_iff {rs : Multiset CaptureResult} {n B : ℕ} {pend : RequestPending}
    (h : Counts rs n B pend) (hB : B < 2 ^ 32) (hb : buffers n rs < 2 ^ 32) :
    Complete pend ↔ B ≤ buffers n rs ∧ metadata n rs % 2 ^ 32 ≠ 0 := by
  have hle : UInt32.ofNat B ≤ UInt32.ofNat (buffers n rs) ↔ B ≤ buffers n rs := by
    rw [UInt32.le_iff_toNat_le, UInt32.toNat_ofNat_of_lt' hB, UInt32.toNat_ofNat_of_lt' hb]
  rw [Complete, h.requested, h.numOutputBuffer, h.numMetadata, hle, Ne, toInt32_eq_zero_iff,
    UInt32.toNat_ofNat']

/-! ## The ledger -/

@[ext]
structure Ledger where
  pending : ℕ → Option RequestPending
  /-- The frames whose record a result has deleted. -/
  freed : Multiset ℕ
  /-- The number of buffers of each accepted request. -/
  requested : ℕ → Option ℕ
  inFlight : Multiset (ℕ × StreamBuffer)
  /-- The results being delivered. -/
  calls : Multiset CaptureResult
  counted : Multiset CaptureResult

namespace Ledger

variable {l : Ledger} {n B : ℕ} {r : CaptureResult}

/-- Frame `n` is pending, with exact counters that do not complete it. -/
def IsPending (l : Ledger) (n B : ℕ) : Prop :=
  l.freed.count n = 0 ∧
    ∃ pend, l.pending n = some pend ∧ Counts l.counted n B pend ∧ ¬ Complete pend

/-- Frame `n` was released, once, with all of its buffers and some metadata counted. -/
def IsReleased (l : Ledger) (n B : ℕ) : Prop :=
  l.freed.count n = 1 ∧ l.pending n = none ∧ buffers n l.counted = B ∧ metadata n l.counted ≠ 0

/-- **The invariant of the ledger.** -/
structure Valid (l : Ledger) : Prop where
  small : ∀ n B, l.requested n = some B → B ≤ maxStream
  balance : ∀ n, heldFor n l.inFlight + buffers n l.calls + buffers n l.counted =
    (l.requested n).getD 0
  known : ∀ r ∈ l.calls + l.counted, l.requested r.frameNumber ≠ none
  unknown : ∀ n, l.requested n = none → l.freed.count n = 0
  status : ∀ n B, l.requested n = some B → l.IsPending n B ∨ l.IsReleased n B

/-- The counters of a new record. -/
def Fresh (B : ℕ) (pend : RequestPending) : Prop :=
  pend.request.numOutputBuffers = UInt32.ofNat B ∧ pend.numOutputBuffer = 0 ∧ pend.numMetadata = 0

namespace Valid

theorem counted_eq_zero (h : l.Valid) (hn : l.requested n = none) (f : CaptureResult → ℕ) :
    total f n l.counted = 0 :=
  total_eq_zero fun r hr he => absurd (he ▸ hn) (h.known r (Multiset.mem_add.mpr (Or.inr hr)))

/-- **Adding or removing a record of a frame that is not accepted.** -/
theorem setPending (h : l.Valid) (pending : ℕ → Option RequestPending)
    (hp : ∀ n, l.requested n ≠ none → pending n = l.pending n) :
    Valid { l with pending := pending } where
  small := h.small
  balance := h.balance
  known := h.known
  unknown := h.unknown
  status n B hB := by
    have hn : pending n = l.pending n := hp n (by rw [hB]; simp)
    rcases h.status n B hB with ⟨hf, p, hpend, hc⟩ | ⟨hf, hpend, hc⟩
    · exact Or.inl ⟨hf, p, hn.trans hpend, hc⟩
    · exact Or.inr ⟨hf, hn.trans hpend, hc⟩

/-- **The HAL accepts a request.** -/
theorem submit (h : l.Valid) {bs : List StreamBuffer} {pend : RequestPending}
    (hn : l.requested n = none) (hp : l.pending n = some pend) (hfresh : Fresh bs.length pend)
    (hlen : bs.length ≤ maxStream) :
    Valid { l with
      requested := Function.update l.requested n (some bs.length)
      inFlight := l.inFlight + (bs.map fun b => (n, b) : List (ℕ × StreamBuffer)) } where
  small m B hB := by
    dsimp only at hB
    rcases eq_or_ne m n with rfl | hm
    · rw [Function.update_self] at hB
      exact Option.some.inj hB ▸ hlen
    · rw [Function.update_of_ne hm] at hB
      exact h.small m B hB
  balance m := by
    have hbal := h.balance m
    have hheld : heldFor m (bs.map fun b => (n, b) : List (ℕ × StreamBuffer)) =
        if m = n then bs.length else 0 := by
      simp only [heldFor, Multiset.coe_countP, List.countP_map]
      split_ifs with hm
      · simp [hm, List.countP_eq_length]
      · simp [Ne.symm hm, List.countP_eq_zero]
    dsimp only
    rw [heldFor, Multiset.countP_add, ← heldFor, ← heldFor, hheld]
    rcases eq_or_ne m n with rfl | hm
    · rw [hn, Option.getD_none] at hbal
      rw [Function.update_self, if_pos rfl, Option.getD_some]
      omega
    · rw [Function.update_of_ne hm, if_neg hm]
      omega
  known r hr := by
    dsimp only
    rcases eq_or_ne r.frameNumber n with he | hne
    · rw [he, Function.update_self]
      simp
    · rw [Function.update_of_ne hne]
      exact h.known r hr
  unknown m hm := by
    dsimp only at hm
    rcases eq_or_ne m n with rfl | hne
    · rw [Function.update_self] at hm
      cases hm
    · rw [Function.update_of_ne hne] at hm
      exact h.unknown m hm
  status m B hB := by
    dsimp only at hB
    rcases eq_or_ne m n with rfl | hne
    · rw [Function.update_self] at hB
      obtain rfl := Option.some.inj hB
      refine Or.inl ⟨h.unknown m hn, pend, hp, ⟨hfresh.1, ?_, ?_⟩, fun hc => hc.2 hfresh.2.2⟩
      · rw [buffers, h.counted_eq_zero hn, hfresh.2.1]
        rfl
      · rw [metadata, h.counted_eq_zero hn, hfresh.2.2]
        rfl
    · rw [Function.update_of_ne hne] at hB
      exact h.status m B hB

/-- **The HAL begins to deliver a result.** -/
theorem call (h : l.Valid) (hr : l.requested r.frameNumber ≠ none)
    (hle : (r.outputBuffers.map fun b => (r.frameNumber, b) : List (ℕ × StreamBuffer)) ≤
      l.inFlight) :
    Valid { l with
      inFlight := l.inFlight -
        (r.outputBuffers.map fun b => (r.frameNumber, b) : List (ℕ × StreamBuffer))
      calls := r ::ₘ l.calls } where
  small := h.small
  balance m := by
    have hbal := h.balance m
    have hheld : heldFor m
        (r.outputBuffers.map fun b => (r.frameNumber, b) : List (ℕ × StreamBuffer)) =
        if r.frameNumber = m then r.outputBuffers.length else 0 := by
      simp only [heldFor, Multiset.coe_countP, List.countP_map]
      split_ifs with hm
      · simp [hm, List.countP_eq_length]
      · simp [hm, List.countP_eq_zero]
    have hsub := Multiset.countP_le_of_le (fun t : ℕ × StreamBuffer => t.1 = m) hle
    rw [heldFor, Multiset.countP_sub hle]
    simp only [heldFor, buffers] at hbal hheld hsub ⊢
    rw [total_cons]
    omega
  known r' hr' := by
    dsimp only at hr'
    rw [Multiset.cons_add, Multiset.mem_cons] at hr'
    rcases hr' with rfl | hr'
    · exact hr
    · exact h.known r' hr'
  unknown := h.unknown
  status := h.status

theorem complete_iff (h : l.Valid) (hr : r ∈ l.calls) (hB : l.requested r.frameNumber = some B)
    {pend : RequestPending} (hpend : l.pending r.frameNumber = some pend) :
    Complete (countResult r pend) ↔
      buffers r.frameNumber (r ::ₘ l.counted) = B ∧
        metadata r.frameNumber (r ::ₘ l.counted) % 2 ^ 32 ≠ 0 := by
  have hle : buffers r.frameNumber (r ::ₘ l.counted) ≤ B := by
    have hbal := h.balance r.frameNumber
    rw [← Multiset.cons_erase hr, hB, Option.getD_some] at hbal
    simp only [buffers, total_cons] at hbal ⊢
    omega
  have hmax : B ≤ maxStream := h.small _ _ hB
  have hmax' : maxStream < 2 ^ 32 := by decide
  rcases h.status _ B hB with ⟨-, pend', hpend', hc, -⟩ | ⟨-, hnone, -⟩
  · obtain rfl : pend' = pend := Option.some.inj (hpend'.symm.trans hpend)
    rw [(hc.countResult rfl).complete_iff (by omega) (by omega)]
    exact and_congr_left' ⟨fun hB' => le_antisymm hle hB', fun he => he.ge⟩
  · rw [hnone] at hpend
    cases hpend

/-- **A result is counted**: `pending` and `freed` are what its critical section makes of the
record of its frame. Records of other frames are untouched. -/
theorem count (h : l.Valid) (hr : r ∈ l.calls) (pending : ℕ → Option RequestPending)
    (freed : Multiset ℕ)
    (hother : ∀ n, n ≠ r.frameNumber → pending n = l.pending n ∧ freed.count n = l.freed.count n)
    (hown : match l.pending r.frameNumber with
      | none => pending r.frameNumber = none ∧ freed = l.freed
      | some pend =>
          if Complete (countResult r pend) then
            pending r.frameNumber = none ∧ freed = r.frameNumber ::ₘ l.freed
          else pending r.frameNumber = some (countResult r pend) ∧ freed = l.freed) :
    Valid { l with
      pending := pending
      freed := freed
      calls := l.calls.erase r
      counted := r ::ₘ l.counted } := by
  have hbal : ∀ n, heldFor n l.inFlight + buffers n (l.calls.erase r) +
      buffers n (r ::ₘ l.counted) = (l.requested n).getD 0 := by
    intro n
    have hn := h.balance n
    rw [← Multiset.cons_erase hr] at hn
    simp only [buffers, total_cons] at hn ⊢
    omega
  have hrequested : l.requested r.frameNumber ≠ none :=
    h.known r (Multiset.mem_add.mpr (Or.inl hr))
  refine ⟨h.small, hbal, fun r' hr' => ?_, fun n hn => ?_, fun n B hB => ?_⟩
  · dsimp only at hr' ⊢
    rw [Multiset.mem_add, Multiset.mem_cons] at hr'
    rcases hr' with hr' | rfl | hr'
    · exact h.known r' (Multiset.mem_add.mpr (Or.inl (Multiset.mem_of_mem_erase hr')))
    · exact hrequested
    · exact h.known r' (Multiset.mem_add.mpr (Or.inr hr'))
  · have hne : n ≠ r.frameNumber := fun he => hrequested (he ▸ hn)
    exact (hother n hne).2.trans (h.unknown n hn)
  · rcases eq_or_ne n r.frameNumber with rfl | hne
    · rcases h.status _ B hB with ⟨hf, pend, hpend, hc, -⟩ | ⟨hf, hpend, hb, hm⟩
      · -- pending: the counters stay exact, and tell whether the request is complete
        simp only [hpend] at hown
        split_ifs at hown with hcomplete
        · obtain ⟨hb, hm⟩ := (h.complete_iff hr hB hpend).mp hcomplete
          refine Or.inr ⟨?_, hown.1, hb, fun h0 => hm ?_⟩
          · rw [hown.2, Multiset.count_cons_self, hf]
          · rw [h0, Nat.zero_mod]
        · exact Or.inl ⟨by rw [hown.2, hf], _, hown.1, hc.countResult rfl, hcomplete⟩
      · -- released: the result has no buffers left to bring
        simp only [hpend] at hown
        have hbal' := hbal r.frameNumber
        rw [show l.requested r.frameNumber = some B from hB, Option.getD_some] at hbal'
        refine Or.inr ⟨by rw [hown.2, hf], hown.1, ?_, ?_⟩
        · simp only [buffers, total_cons] at hbal' hb ⊢
          omega
        · simp only [metadata, total_cons] at hm ⊢
          omega
    · obtain ⟨hp, hf⟩ := hother n hne
      have hcons : ∀ f, total f n (r ::ₘ l.counted) = total f n l.counted := by
        intro f
        rw [total_cons, if_neg (Ne.symm hne), Nat.zero_add]
      rcases h.status n B hB with ⟨hf₀, pend, hpend, hc, hnot⟩ | ⟨hf₀, hpend, hb, hm⟩
      · exact Or.inl ⟨hf.trans hf₀, pend, hp.trans hpend, hc.cons_of_ne (Ne.symm hne), hnot⟩
      · exact Or.inr ⟨hf.trans hf₀, hp.trans hpend, (hcons _).trans hb,
          fun h0 => hm ((hcons _).symm.trans h0)⟩

/-- A frame whose buffers have all been counted, with metadata that does not wrap to `0`, is
released. -/
theorem released_of_delivered (h : l.Valid) (hB : l.requested n = some B)
    (hb : buffers n l.counted = B) (hm : metadata n l.counted % 2 ^ 32 ≠ 0) :
    l.IsReleased n B := by
  have hmax := h.small n B hB
  have hmax' : maxStream < 2 ^ 32 := by decide
  refine (h.status n B hB).resolve_left ?_
  rintro ⟨-, pend, -, hc, hnot⟩
  exact hnot ((hc.complete_iff (by omega) (by omega)).mpr ⟨hb.ge, hm⟩)

/-- **Where nothing is pending, the HAL has delivered every buffer.** -/
theorem delivered_of_pending_eq_none (h : l.Valid) (hp : ∀ n, l.pending n = none) :
    l.inFlight = 0 ∧ ∀ r ∈ l.calls, r.outputBuffers = [] := by
  have hzero : ∀ n, heldFor n l.inFlight = 0 ∧ buffers n l.calls = 0 := by
    intro n
    have hbal := h.balance n
    cases hB : l.requested n with
    | none =>
        rw [hB, Option.getD_none] at hbal
        omega
    | some B =>
        rw [hB, Option.getD_some] at hbal
        rcases h.status n B hB with ⟨-, pend, hpend, -⟩ | ⟨-, -, hb, -⟩
        · rw [hp n] at hpend
          cases hpend
        · omega
  constructor
  · refine Multiset.eq_zero_of_forall_notMem fun t ht => ?_
    have hpos : 0 < heldFor t.1 l.inFlight := Multiset.countP_pos.mpr ⟨t, ht, rfl⟩
    have := (hzero t.1).1
    omega
  · intro r hr
    have hle := le_total_of_mem (f := fun r => r.outputBuffers.length) hr
    have := (hzero r.frameNumber).2
    rw [buffers] at this
    exact List.eq_nil_of_length_eq_zero (by omega)

end Valid

end Ledger

end QCamx
