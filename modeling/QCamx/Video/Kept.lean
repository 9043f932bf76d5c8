import QCamx.Video.Parts

/-!
# What the HAL leaves in a buffer

A buffer that the HAL has returned is not in its hands until it has gone through a free list again,
so it keeps what the HAL left in it, wherever it is on its way.

* `Device.taken`: the buffers on their way back from the HAL;
* `Step.taken_subset`: only a call of `ProcessCaptureResult` adds to them;
* **`Kept`**: they hold what the HAL left in them.
-/

namespace QCamx

open Guarded

/-! ## Buffers that the HAL does not hold -/

namespace Device

variable {cfg : Setup} {s s' : Device}

/-- The buffers between the HAL and the managers, on the way back. -/
def taken (cfg : Setup) (s : Device) : List (ℕ × Buffer) :=
  s.encoder ++ (s.resultSide cfg).map (atManager cfg.camera3Streams)

theorem Custody.count_taken (h : Custody cfg s) (i : ℕ) (b : Buffer) :
    (s.buffersFree i).count b + (taken cfg s).count (i, b) +
      (s.requestSide.map (atManager cfg.camera3Streams)).count (i, b) =
      (cfg.allocated i).count b := by
  have hcons := h.conserved i b
  rw [countOf_eq] at hcons
  rw [taken, List.count_append]
  omega

theorem Custody.not_mem_taken (h : Custody cfg s) {t : ℕ × Buffer}
    (ht : t ∈ s.requestSide.map (atManager cfg.camera3Streams)) : t ∉ taken cfg s := by
  obtain ⟨i, b⟩ := t
  have hcount := h.count_taken i b
  have hle := List.nodup_iff_count_le_one.mp (cfg.nodup_allocated i) b
  have hpos := List.count_pos_iff.mpr ht
  rw [← List.count_eq_zero]
  omega

theorem Custody.taken_subset (h : Custody cfg s) (h' : Custody cfg s')
    (hfree : ∀ i b, (s.buffersFree i).count b ≤ (s'.buffersFree i).count b)
    (hrequest : s'.requestSide = s.requestSide) : taken cfg s' ⊆ taken cfg s := by
  intro t ht
  obtain ⟨i, b⟩ := t
  have hcount := h.count_taken i b
  have hcount' := h'.count_taken i b
  have hle := hfree i b
  have hpos := List.count_pos_iff.mpr ht
  rw [hrequest] at hcount'
  exact List.count_pos_iff.mp (by omega)

theorem count_returnBuffer_le (s : Device) (j : ℕ) (c : Buffer) (i : ℕ) (b : Buffer) :
    (s.buffersFree i).count b ≤ ((s.returnBuffer j c).buffersFree i).count b := by
  rw [count_returnBuffer]
  exact Nat.le_add_right _ _

theorem count_foldl_le (effects : List Effect) (s : Device) (i : ℕ) (b : Buffer) :
    (s.buffersFree i).count b ≤ ((effects.foldl applyEffect s).buffersFree i).count b := by
  induction effects generalizing s with
  | nil => exact le_rfl
  | cons e effects ih =>
      refine le_trans ?_ (ih _)
      cases e with
      | returnBuffer j c => exact count_returnBuffer_le s j c i b
      | _ => exact le_rfl

/-- **Only a call of `ProcessCaptureResult` takes buffers from the HAL.** -/
theorem Step.taken_subset {a : Act} (hs : Step cfg s a s') (h : Custody cfg s)
    (h' : Custody cfg s') (hcall : ∀ r, a ≠ .hal (.call r)) : taken cfg s' ⊆ taken cfg s := by
  cases hs with
  | request hs =>
      have hf := hs.frame
      have hside : s'.resultSide cfg = s.resultSide cfg := by
        simp only [resultSide, calling, messageBuffers, dropped, hf.entering, hf.holder,
          hf.resultThread, hf.resultPc, hf.arrivals]
      rw [taken, taken, hside, hf.encoder]
      exact List.Subset.refl _
  | hal hs =>
      have hf := hs.frame
      refine h.taken_subset h' (fun i b => by simp only [buffersFree, hf.managers, le_refl]) ?_
      rw [requestSide, requestSide, hf.requestPc]
      cases hs with
      | call | callMetadata => exact absurd rfl (hcall _)
      | _ => rfl
  | result hs =>
      have hf := hs.frame
      refine h.taken_subset h' (fun i b => ?_) (by rw [requestSide, hf.requestPc, hf.inFlight]; rfl)
      cases hs with
      | @callback msg c rest effects => exact count_foldl_le effects s i b
      | @giveBack msg c rest j => exact count_returnBuffer_le s j c.buffer i b
      | _ => exact le_rfl
  | @encoderReturn t ht =>
      exact h.taken_subset h' (fun i b => count_returnBuffer_le s t.1 t.2 i b) rfl
  | stop hs =>
      have hf := hs.frame
      exact h.taken_subset h' (fun i b => by simp only [buffersFree, hf.managers, le_refl])
        (by rw [requestSide, hf.requestPc, hf.inFlight]; rfl)
  | user hs =>
      have hf := hs.frame
      exact h.taken_subset h' (fun i b => by simp only [buffersFree, hf.managers, le_refl])
        (by rw [requestSide, hf.requestPc, hf.inFlight]; rfl)

end Device

namespace Video

variable {cfg : VideoSetup} {v v' : Video}

/-! ## What the HAL has left in a buffer -/

/-- A buffer on its way back holds what the HAL left in it. -/
def Kept (cfg : VideoSetup) (v : Video) : Prop :=
  ∀ b, (cfg.videoIndex, b) ∈ Device.taken cfg.device v.device → v.memory b = v.captured b

theorem mem_of_isVideo {b : StreamBuffer} (h : cfg.IsVideo b) :
    atManager cfg.device.camera3Streams b = (cfg.videoIndex, b.buffer) := by
  rw [atManager, (cfg.idxOf_eq_iff (List.mem_of_getElem? h)).mpr h]

theorem returnsGivenOnce {a : Act} {s : Device} (h : Device.HalContract a s) :
    Device.ReturnsGivenOnce cfg.device a s := by
  unfold Device.ReturnsGivenOnce
  split
  · refine ⟨h, ?_⟩
    have htc := cfg.testCase
    cases hv : cfg.encoder.videoOnly <;> simp [GivesUpOnce, htc, hv]
  · trivial

theorem custody {ok : Act → Device → Prop} (h : Parts cfg ok v)
    (hok : ∀ a s, ok a s → Device.HalContract a s) (hst : v.device.stopPc.stage < 7) :
    Device.Custody cfg.device v.device :=
  Device.custody h.device (fun a s ha => returnsGivenOnce (hok a s ha)) hst

theorem mem_requestSide {r : CaptureResult} {s : Device}
    (hcall : Device.HalContract (.hal (.call r)) s) {b : StreamBuffer} (hb : b ∈ r.outputBuffers) :
    b ∈ s.requestSide := by
  refine List.mem_append_right _ (List.mem_map.mpr ⟨(r.frameNumber, b), ?_, rfl⟩)
  exact hcall.2.subset (List.mem_map_of_mem hb)

theorem taken_call {r : CaptureResult} {s d : Device} {t : ℕ × Buffer}
    (hs : Device.HalStep s (.call r) d) (ht : t ∈ Device.taken cfg.device d) :
    t ∈ r.outputBuffers.map (atManager cfg.device.camera3Streams) ∨
      t ∈ Device.taken cfg.device s := by
  have hf := hs.frame
  cases hs with
  | callMetadata => exact Or.inr ht
  | call =>
      simp only [Device.taken, Device.resultSide, Device.calling, Device.messageBuffers,
        Device.dropped, List.flatMap_cons, List.map_append, List.mem_append] at ht ⊢
      tauto

theorem Kept.device {a : Act} {d : Device} (h : Kept cfg v)
    (hc : Device.Custody cfg.device v.device) (hc' : Device.Custody cfg.device d)
    (ha : Device.HalContract a v.device) (hs : Device.Step cfg.device v.device a d) :
    Kept cfg (v.deviceTo cfg a d) := by
  by_cases hcall : ∃ r, a = .hal (.call r)
  · obtain ⟨r, rfl⟩ := hcall
    intro b hb
    show v.memory b = if b ∈ cfg.videoBuffers r.outputBuffers then v.memory b else v.captured b
    split_ifs with hmem
    · rfl
    · cases hs with
      | hal hs =>
          rcases taken_call hs hb with hb | hb
          · obtain ⟨c, hc₁, hc₂⟩ := List.mem_map.mp hb
            have hknown := hc.known c (mem_requestSide ha hc₁)
            obtain ⟨hidx, rfl⟩ := Prod.mk.inj hc₂
            refine absurd (List.mem_map.mpr ⟨c, List.mem_filter.mpr ⟨hc₁, ?_⟩, rfl⟩) hmem
            exact decide_eq_true ((cfg.idxOf_eq_iff hknown).mp hidx)
          · exact h b hb
  · have hsub := hs.taken_subset hc hc' fun r hr => hcall ⟨r, hr⟩
    have hcaptured : (v.deviceTo cfg a d).captured = v.captured := by
      unfold deviceTo
      split
      · exact absurd ⟨_, rfl⟩ hcall
      all_goals rfl
    intro b hb
    rw [deviceTo_device] at hb
    rw [deviceTo_memory, hcaptured]
    exact h b (hsub hb)

theorem Kept.write {frame : ℕ} {b : StreamBuffer} {offset : ℕ} {byte : UInt8} (h : Kept cfg v)
    (hc : Device.Custody cfg.device v.device) (hin : (frame, b) ∈ v.device.inFlight) :
    Kept cfg { v with
      memory := if cfg.IsVideo b then
          Function.update v.memory b.buffer (Function.update (v.memory b.buffer) offset byte)
        else v.memory } := by
  intro c hmem
  show (if cfg.IsVideo b then _ else v.memory) c = v.captured c
  split_ifs with hvideo
  · have hside : b ∈ v.device.requestSide :=
      List.mem_append_right _ (List.mem_map.mpr ⟨_, hin, rfl⟩)
    have hnot := hc.not_mem_taken (List.mem_map_of_mem hside)
    rw [mem_of_isVideo hvideo] at hnot
    have hne : c ≠ b.buffer := by
      rintro rfl
      exact hnot hmem
    rw [Function.update_of_ne hne]
    exact h c hmem
  · exact h c hmem

end Video

end QCamx
