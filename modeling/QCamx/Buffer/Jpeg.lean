import QCamx.Buffer.Allocation

/-!
# The size of a JPEG buffer

`get_jpeg_buffer_size` goes from the smallest size to `ANDROID_JPEG_MAX_SIZE` in proportion to the
number of pixels. The number of pixels at which it should reach the maximum is guessed, a pixel and
a half to a byte, and nothing stops it there. Numbers that are `float` in the source are rational
here, and `sizeof(camera3_jpeg_blob)` is a parameter.

* `getJpegBufferSize`: the function, with its conversion to `int`;
* `le_jpegSize`, `jpegSize_mono`: the smallest size is kept, and the size grows with the image;
* `jpegSize_lt_iff`: when the maximum is kept;
* **`jpegWithinLimits_iff`**: when a buffer for a JPEG is within its limits.
-/

namespace QCamx

/-! ## The function -/

/-- `kMinJpegBufferSize`. -/
def kMinJpegBufferSize (blobSize : ℕ) : ℤ := 256 * 1024 + blobSize

/-- An `int` and a `size_t` are subtracted as `size_t`. -/
def sizeT (z : ℤ) : ℤ := z % 2 ^ 64

/-- `scale_factor`. -/
def scaleFactor (blobSize : ℕ) (maxJpegBufferSize : Int32) (width height : UInt32) : ℚ :=
  (width.toNat * height.toNat) / (sizeT (maxJpegBufferSize.toInt - blobSize) / (3 / 2))

/-- The size before its conversion to `int`. -/
def jpegSize (blobSize : ℕ) (maxJpegBufferSize : Int32) (width height : UInt32) : ℚ :=
  scaleFactor blobSize maxJpegBufferSize width height *
    (maxJpegBufferSize.toInt - kMinJpegBufferSize blobSize) + kMinJpegBufferSize blobSize

/-- The conversion to `int` cuts off the fraction, and has to fit. -/
def convertInt (q : ℚ) : Option Int32 :=
  let z := if 0 ≤ q then ⌊q⌋ else ⌈q⌉
  if FitsInt z then some (Int32.ofInt z) else none

/-- `get_jpeg_buffer_size`, for an entry `ANDROID_JPEG_MAX_SIZE`. -/
def getJpegBufferSize (blobSize : ℕ) (jpegMaxSize : List Int32) (width height : UInt32) :
    Option Int32 :=
  match jpegMaxSize with
  | [] => some 0
  | maxJpegBufferSize :: _ => convertInt (jpegSize blobSize maxJpegBufferSize width height)

/-! ## The two bounds -/

variable {blobSize : ℕ} {M : Int32} {width height : UInt32}

/-- The image has few enough pixels: the scale is below `1`, up to a fraction of a byte. -/
def JpegFits (blobSize : ℕ) (M : Int32) (width height : UInt32) : Prop :=
  3 * (width.toNat * height.toNat) * (M.toInt - kMinJpegBufferSize blobSize) <
    2 * (M.toInt - blobSize) * (M.toInt - kMinJpegBufferSize blobSize + 1)

instance : Decidable (JpegFits blobSize M width height) := by
  unfold JpegFits
  infer_instance

theorem sizeT_sub (hM : kMinJpegBufferSize blobSize ≤ M.toInt) :
    sizeT (M.toInt - blobSize) = M.toInt - blobSize := by
  have hlt := M.toInt_lt
  unfold kMinJpegBufferSize at hM
  unfold sizeT
  omega

theorem sub_blobSize_pos (hM : kMinJpegBufferSize blobSize ≤ M.toInt) :
    (0 : ℚ) < M.toInt - blobSize := by
  have hpos : 0 < M.toInt - (blobSize : ℤ) := by
    unfold kMinJpegBufferSize at hM
    omega
  exact_mod_cast hpos

theorem scaleFactor_eq (hM : kMinJpegBufferSize blobSize ≤ M.toInt) :
    scaleFactor blobSize M width height =
      3 * (width.toNat * height.toNat) / (2 * (M.toInt - blobSize)) := by
  have hpos := sub_blobSize_pos hM
  rw [scaleFactor, sizeT_sub hM]
  push_cast
  field_simp

/-- **The size is never below the smallest one.** -/
theorem le_jpegSize (hM : kMinJpegBufferSize blobSize ≤ M.toInt) (width height : UInt32) :
    (kMinJpegBufferSize blobSize : ℚ) ≤ jpegSize blobSize M width height := by
  have hpos := sub_blobSize_pos hM
  have hdiff : (0 : ℚ) ≤ M.toInt - kMinJpegBufferSize blobSize := by
    exact_mod_cast sub_nonneg.mpr hM
  rw [jpegSize, scaleFactor_eq hM]
  exact le_add_of_nonneg_left (by positivity)

/-- **The size grows with the number of pixels.** -/
theorem jpegSize_mono (hM : kMinJpegBufferSize blobSize ≤ M.toInt) {width' height' : UInt32}
    (h : width.toNat * height.toNat ≤ width'.toNat * height'.toNat) :
    jpegSize blobSize M width height ≤ jpegSize blobSize M width' height' := by
  have hpos := sub_blobSize_pos hM
  have hdiff : (0 : ℚ) ≤ M.toInt - kMinJpegBufferSize blobSize := by
    exact_mod_cast sub_nonneg.mpr hM
  have hpixels : (width.toNat * height.toNat : ℚ) ≤ width'.toNat * height'.toNat := by
    exact_mod_cast h
  rw [jpegSize, jpegSize, scaleFactor_eq hM, scaleFactor_eq hM]
  gcongr

/-- **When the size is below the largest one**, after its fraction is cut off. -/
theorem jpegSize_lt_iff (hM : kMinJpegBufferSize blobSize ≤ M.toInt) :
    jpegSize blobSize M width height < M.toInt + 1 ↔ JpegFits blobSize M width height := by
  have hpos : (0 : ℚ) < 2 * (M.toInt - blobSize) := mul_pos two_pos (sub_blobSize_pos hM)
  have hcast : JpegFits blobSize M width height ↔
      (3 * (width.toNat * height.toNat) * (M.toInt - kMinJpegBufferSize blobSize) : ℚ) <
        2 * (M.toInt - blobSize) * (M.toInt - kMinJpegBufferSize blobSize + 1) := by
    unfold JpegFits
    exact_mod_cast Iff.rfl
  rw [hcast, jpegSize, scaleFactor_eq hM, div_mul_eq_mul_div, ← lt_sub_iff_add_lt, div_lt_iff₀ hpos,
    mul_comm (2 * ((M.toInt : ℚ) - blobSize)), add_sub_right_comm]

/-! ## The buffers -/

theorem convertInt_eq_some {q : ℚ} (hq : 0 ≤ q) {n : Int32} :
    convertInt q = some n ↔ n.toInt = ⌊q⌋ := by
  unfold convertInt
  dsimp only
  rw [if_pos hq]
  constructor
  · intro h
    split_ifs at h with hfits
    obtain rfl := Option.some.inj h
    exact Int32.toInt_ofInt_of_le hfits.1 hfits.2
  · intro h
    have hfits : FitsInt n.toInt := ⟨n.le_toInt, n.toInt_lt⟩
    rw [← h, if_pos hfits, Int32.ofInt_toInt]

theorem getJpegBufferSize_eq_some (hM : kMinJpegBufferSize blobSize ≤ M.toInt) {n : Int32} :
    getJpegBufferSize blobSize [M] width height = some n ↔
      n.toInt = ⌊jpegSize blobSize M width height⌋ := by
  have hmin : (0 : ℚ) ≤ kMinJpegBufferSize blobSize := by
    unfold kMinJpegBufferSize
    positivity
  exact convertInt_eq_some (hmin.trans (le_jpegSize hM width height))

/-- A size between the smallest one and `ANDROID_JPEG_MAX_SIZE`. -/
def WithinLimits (blobSize : ℕ) (M : Int32) (size : ℤ) : Prop :=
  kMinJpegBufferSize blobSize ≤ size ∧ size ≤ M.toInt

theorem le_getJpegBufferSize (hM : kMinJpegBufferSize blobSize ≤ M.toInt) {n : Int32}
    (hn : getJpegBufferSize blobSize [M] width height = some n) :
    kMinJpegBufferSize blobSize ≤ n.toInt := by
  rw [(getJpegBufferSize_eq_some hM).mp hn, Int.le_floor]
  exact le_jpegSize hM width height

theorem getJpegBufferSize_withinLimits_iff (hM : kMinJpegBufferSize blobSize ≤ M.toInt) :
    (∃ n, getJpegBufferSize blobSize [M] width height = some n ∧
      WithinLimits blobSize M n.toInt) ↔ JpegFits blobSize M width height := by
  have hfloor : ⌊jpegSize blobSize M width height⌋ ≤ M.toInt ↔
      JpegFits blobSize M width height := by
    rw [← jpegSize_lt_iff hM, ← Int.lt_add_one_iff, Int.floor_lt]
    push_cast
    rfl
  rw [← hfloor]
  constructor
  · rintro ⟨n, hn, -, hle⟩
    rwa [(getJpegBufferSize_eq_some hM).mp hn] at hle
  · intro hle
    have hmin : kMinJpegBufferSize blobSize ≤ ⌊jpegSize blobSize M width height⌋ :=
      Int.le_floor.mpr (le_jpegSize hM width height)
    have hlt := M.toInt_lt
    have hn : (Int32.ofInt ⌊jpegSize blobSize M width height⌋).toInt =
        ⌊jpegSize blobSize M width height⌋ := by
      unfold kMinJpegBufferSize at hmin
      exact Int32.toInt_ofInt_of_le (by omega) (by omega)
    refine ⟨_, (getJpegBufferSize_eq_some hM).mpr hn, ?_⟩
    rw [hn]
    exact ⟨hmin, hle⟩

theorem preAllocateArgs_blob {s : Stream}
    (hformat : s.pstream.format = Int32.ofInt halPixelFormatBlob) {n : Int32} (hn : 0 ≤ n.toInt) :
    ((preAllocateArgs (fun _ _ => n) s).width.toNat : ℤ) = n.toInt ∧
      (preAllocateArgs (fun _ _ => n) s).height = 1 := by
  unfold preAllocateArgs
  rw [if_pos hformat, if_pos hformat, toNat_toUInt32, if_pos hn]
  exact ⟨rfl, rfl⟩

/-- **When a buffer for a JPEG is within its limits**; the smallest size is always kept, and more
pixels never give a smaller buffer. -/
theorem jpegWithinLimits_iff (hM : kMinJpegBufferSize blobSize ≤ M.toInt) {s : Stream}
    (hformat : s.pstream.format = Int32.ofInt halPixelFormatBlob) :
    ((∃ n, getJpegBufferSize blobSize [M] s.pstream.width s.pstream.height = some n ∧
        WithinLimits blobSize M n.toInt ∧
        WithinLimits blobSize M (preAllocateArgs (fun _ _ => n) s).width.toNat ∧
        (preAllocateArgs (fun _ _ => n) s).height = 1) ↔
      JpegFits blobSize M s.pstream.width s.pstream.height) ∧
    (∀ n, getJpegBufferSize blobSize [M] s.pstream.width s.pstream.height = some n →
      kMinJpegBufferSize blobSize ≤ n.toInt) ∧
    ∀ width height n n',
      s.pstream.width.toNat * s.pstream.height.toNat ≤ width.toNat * height.toNat →
      getJpegBufferSize blobSize [M] s.pstream.width s.pstream.height = some n →
      getJpegBufferSize blobSize [M] width height = some n' → n.toInt ≤ n'.toInt := by
  refine ⟨?_, fun n hn => le_getJpegBufferSize hM hn, fun width height n n' hpixels hn hn' => ?_⟩
  · rw [← getJpegBufferSize_withinLimits_iff hM]
    constructor
    · rintro ⟨n, hn, hlimits, -⟩
      exact ⟨n, hn, hlimits⟩
    · rintro ⟨n, hn, hlimits⟩
      have hpos : 0 ≤ n.toInt := by
        have hmin := hlimits.1
        unfold kMinJpegBufferSize at hmin
        omega
      obtain ⟨hwidth, hheight⟩ := preAllocateArgs_blob hformat hpos
      exact ⟨n, hn, hlimits, by rwa [hwidth], hheight⟩
  · rw [(getJpegBufferSize_eq_some hM).mp hn, (getJpegBufferSize_eq_some hM).mp hn']
    exact Int.floor_mono (jpegSize_mono hM hpixels)

/-- A stream of JPEG images. -/
def jpegStream (width height : UInt32) : Stream :=
  ⟨⟨width, height, Int32.ofInt halPixelFormatBlob⟩, usageSwReadOften, snapshotStreamBufferMax,
    .snapshot, .none⟩

/-- The largest image of a sensor of 4000 by 3000, a pixel and a half to a byte. -/
theorem jpegWithinLimits_largest : ∃ n, getJpegBufferSize 8 [18000008] 4000 3000 = some n ∧
    WithinLimits 8 18000008 n.toInt ∧
    WithinLimits 8 18000008 (preAllocateArgs (fun _ _ => n) (jpegStream 4000 3000)).width.toNat ∧
    (preAllocateArgs (fun _ _ => n) (jpegStream 4000 3000)).height = 1 := by
  have hM : kMinJpegBufferSize 8 ≤ (18000008 : Int32).toInt := by decide
  have hformat : (jpegStream 4000 3000).pstream.format = Int32.ofInt halPixelFormatBlob := rfl
  exact (jpegWithinLimits_iff hM hformat).1.mpr (by decide)

/-- An image of twice its width. -/
theorem jpeg_exceeds : getJpegBufferSize 8 [18000008] 8000 3000 = some 35737864 ∧
    ¬ WithinLimits 8 18000008 (35737864 : Int32).toInt := by
  refine ⟨by decide +kernel, fun h => absurd h.2 (by decide)⟩

end QCamx
