import QCamx.Streams
import QCamx.Buffer.Ion

/-!
# The buffers a test case asks for

`pre_init_stream` of a case describes its streams with their usage flags, and
`pre_allocate_streams` hands size, format and usage of each to a buffer manager.

* `preInitStreams`, `preAllocateArgs`: what the six cases ask for;
* `LargeEnough`, `LayoutFits`: that a layout holds the image, and the sizes for which it does;
* **`largeEnough_iff`**: a layout that a test case causes is large enough exactly for those sizes;
* `raw10_stride_too_small`: the stride of a `RAW10` image of width 13.
-/

namespace QCamx

open Align Streams

/-! ## The streams and their usage -/

/-- `Stream`, with the fields of its `camera3_stream_t` that tell which buffers it needs. -/
structure Stream where
  pstream : Camera3Stream
  usage : UInt32
  maxBuffers : UInt32
  type : StreamType
  subformat : Implsubformat
  deriving DecidableEq, Repr

/-- `PREVIEW_STREAM_BUFFER_MAX`. -/
def previewStreamBufferMax : UInt32 := 12

/-- `HFR_PREVIEW_STREAM_BUFFER_MAX`. -/
def hfrPreviewStreamBufferMax : UInt32 := 15

/-- `SNAPSHOT_STREAM_BUFFER_MAX`. -/
def snapshotStreamBufferMax : UInt32 := 8

/-- `VIDEO_STREAM_BUFFER_MAX`. -/
def videoStreamBufferMax : UInt32 := 18

/-- `HFR_VIDEO_STREAM_BUFFER_MAX`. -/
def hfrVideoStreamBufferMax : UInt32 := 40

/-- The usage of a stream that the CPU reads and writes. -/
def cpuUsage : UInt32 :=
  usageSwReadOften ||| usageSwWriteOften ||| usageHwCameraRead ||| usageHwCameraWrite

/-- The usage of the preview stream of a video case. -/
def previewUsage (c : Config) : UInt32 :=
  if c.previewStream.type = some .videoRecord then
    usagePrivate0 ||| usageHwVideoEncoder ||| usageHwCameraWrite
  else usageHwComposer ||| usageHwTexture ||| usageHwCameraWrite

/-- The usage of the video stream. -/
def videoUsage (c : Config) : UInt32 :=
  if c.videoStream.format = halPixelFormatImplementationDefined ∧
      c.videoStream.subformat = .p010 then
    usageHwVideoEncoder ||| usagePrivate2
  else if c.videoStream.format = halPixelFormatImplementationDefined ∧
      c.videoStream.subformat = .ubwcTP10 then
    usageHwVideoEncoder ||| usagePrivate0 ||| usagePrivate2
  else usagePrivate0 ||| usageHwVideoEncoder ||| usageHwCameraWrite

/-- The preview stream of `QCamxPreviewOnlyCase`. -/
def previewOnlyStream (c : Config) : Stream :=
  ⟨camera3Stream c.previewStream, cpuUsage, previewStreamBufferMax, .preview,
    c.previewStream.subformat⟩

/-- The preview stream of `QCamxPreviewSnapshotCase`. -/
def zslPreviewStream (c : Config) : Stream :=
  ⟨camera3Stream c.previewStream,
    if c.zslEnabled then
      usageHwComposer ||| usageHwTexture ||| usageHwCameraRead ||| usageHwCameraWrite
    else cpuUsage,
    previewStreamBufferMax, .preview, c.previewStream.subformat⟩

/-- The snapshot stream of `QCamxPreviewSnapshotCase`. -/
def snapshotStream (c : Config) : Stream :=
  ⟨camera3Stream c.snapshotStream, usageSwReadOften, snapshotStreamBufferMax, .snapshot,
    c.snapshotStream.subformat⟩

/-- The preview stream of a video case. -/
def videoPreviewStream (c : Config) (subformat : Implsubformat) : Stream :=
  ⟨camera3Stream c.previewStream, previewUsage c,
    if 60 < c.fpsRange.2 then hfrPreviewStreamBufferMax else previewStreamBufferMax, .preview,
    subformat⟩

/-- The video stream of a video case. -/
def videoStream (c : Config) : Stream :=
  ⟨camera3Stream c.videoStream, videoUsage c,
    if 60 < c.fpsRange.2 then hfrVideoStreamBufferMax else videoStreamBufferMax, .video,
    c.videoStream.subformat⟩

/-- The snapshot stream of `QCamxHAL3TestVideo`. -/
def videoSnapshotStream (c : Config) : Stream :=
  ⟨camera3Stream c.snapshotStream,
    if c.heicSnapshot then usageHwVideoEncoder ||| usageHwCameraWrite else usageSwReadOften,
    12, .snapshot, if c.heicSnapshot then c.snapshotStream.subformat else .none⟩

/-- The raw snapshot stream of `QCamxHAL3TestVideo`. -/
def videoRawSnapshotStream (d : Characteristics) (c : Config) : Stream :=
  ⟨rawSnapshotStream d c, usageSwReadOften, snapshotStreamBufferMax, .snapshot, .none⟩

/-- A stream of `QCamxHAL3TestDepth`. -/
def depthCaseStream (c : Config) (s : StreamInfo) (type : StreamType) : Stream :=
  ⟨camera3Stream s, usageSwReadOften ||| usageSwWriteOften, previewStreamBufferMax, type,
    c.depthStream.subformat⟩

/-- `_streams` as the `pre_init_stream` of a case leaves it. -/
def preInitStreams (d : Characteristics) (c : Config) : TestCase → List Stream
  | .previewOnly => [previewOnlyStream c]
  | .previewSnapshot => [zslPreviewStream c, snapshotStream c]
  | .previewVideo => [videoPreviewStream c c.previewStream.subformat, videoStream c]
  | .videoOnly => [videoStream c]
  | .hal3TestVideo =>
      if (videoModeOf c).value ≤ VideoMode.hfr60.value then
        [videoPreviewStream c .yuv420NV12, videoStream c, videoSnapshotStream c] ++
          if c.rawStreamEnable then [videoRawSnapshotStream d c] else []
      else [videoPreviewStream c .yuv420NV12, videoStream c]
  | .hal3TestDepth =>
      depthCaseStream c c.depthStream .depth ::
        if c.depthIRBGEnabled then [depthCaseStream c c.depthIRBGStream .irbg] else []

/-- **These are the streams that are configured.** -/
theorem map_pstream_preInitStreams (d : Characteristics) (c : Config) (tc : TestCase) :
    (preInitStreams d c tc).map Stream.pstream = preInitStream d c tc := by
  cases tc with
  | previewOnly | previewSnapshot | previewVideo | videoOnly => rfl
  | hal3TestVideo =>
      rw [preInitStreams, preInitStream]
      split_ifs <;> rfl
  | hal3TestDepth =>
      rw [preInitStreams, preInitStream]
      split_ifs <;> rfl

/-- The arguments of `allocate_buffers` that `pre_allocate_streams` gives. -/
structure AllocateArgs where
  numOfBuffers : UInt32
  width : UInt32
  height : UInt32
  format : UInt32
  producerFlags : UInt64
  consumerFlags : UInt64
  type : StreamType
  subformat : Implsubformat

/-- The call of `allocate_buffers` for one stream; `jpegBufferSize` is `get_jpeg_buffer_size`. -/
def preAllocateArgs (jpegBufferSize : UInt32 → UInt32 → Int32) (s : Stream) : AllocateArgs where
  numOfBuffers := s.maxBuffers
  width :=
    if s.pstream.format = Int32.ofInt halPixelFormatBlob then
      (jpegBufferSize s.pstream.width s.pstream.height).toUInt32
    else s.pstream.width
  height := if s.pstream.format = Int32.ofInt halPixelFormatBlob then 1 else s.pstream.height
  format := s.pstream.format.toUInt32
  producerFlags := s.usage.toUInt64
  consumerFlags := s.usage.toUInt64
  type := s.type
  subformat := s.subformat

/-! ## Large enough -/

/-- The bytes of one row, of the luma plane in a 4:2:0 format. -/
def PixelFormat.rowBytes (w : ℕ) : PixelFormat → ℕ
  | y16 | raw16 => 2 * w
  | raw10 => 5 * w ⌈/⌉ 4
  | raw12 => 3 * w ⌈/⌉ 2
  | implementationDefined | ycbcr420 | blob => w

/-- How many halves of `stride * slice` an image takes. -/
def PixelFormat.halfPlanes : PixelFormat → ℕ
  | implementationDefined | ycbcr420 => 3
  | y16 | raw16 | raw10 | raw12 | blob => 2

/-- The layout holds an image of this format and size, in whole pages. -/
structure LargeEnough (f : PixelFormat) (width height : UInt32) (l : IonLayout) : Prop where
  row_le : f.rowBytes width.toNat ≤ l.stride.toNat
  height_le : height.toNat ≤ l.slice.toNat
  len_ge : f.halfPlanes * (l.stride.toNat * l.slice.toNat) ≤ 2 * (allocLen l.bufSize).toNat
  len_dvd : 4096 ∣ (allocLen l.bufSize).toNat

/-- A 4:2:0 image whose sides are aligned to `a` has less than `2 ^ 32` thirds. -/
def TwoPlanesFit (a : UInt32 × UInt32) (w h : ℕ) : Prop :=
  3 * (up w a.1.toNat * up h a.2.toNat) < 2 ^ 32

/-- The sizes whose layout is large enough: no product leaves `uint32_t`, a row of `RAW10` or
`RAW12` does not end in a fraction of a byte just after a multiple of 16, and a buffer in
`HAL_PIXEL_FORMAT_YCBCR_420_888` is aligned to something, `ycbcr420`. -/
def LayoutFits (socId : UInt32) (ycbcr420 : Option (UInt32 × UInt32)) (w h : ℕ) :
    PixelFormat → Prop
  | .y16 | .raw16 => up (2 * w * h) 4096 < 2 ^ 32
  | .raw10 =>
      5 * w < 2 ^ 32 ∧ ¬ (1 ≤ 5 * w % 64 ∧ 5 * w % 64 ≤ 3) ∧
        up (up (5 * w / 4) 16 * h) 4096 < 2 ^ 32
  | .raw12 => 3 * w < 2 ^ 32 ∧ 3 * w % 32 ≠ 1 ∧ up (up (3 * w / 2) 16 * h) 4096 < 2 ^ 32
  | .implementationDefined => TwoPlanesFit (encoderAlignment socId) w h
  | .ycbcr420 => ∃ a, ycbcr420 = some a ∧ TwoPlanesFit a w h
  | .blob => False

theorem onePlane_len_iff (stride slice : UInt32) :
    2 * (stride.toNat * slice.toNat) ≤ 2 * (allocLen (stride * slice)).toNat ↔
      up (stride.toNat * slice.toNat) 4096 < 2 ^ 32 := by
  rw [toNat_allocLen, UInt32.toNat_mul, Nat.mul_le_mul_left_iff (by decide)]
  exact le_up_mod_iff (by decide) (by decide) (by decide)

theorem toNat_twoPlanes_bufSize (stride slice : UInt32) :
    (IonLayout.twoPlanes stride slice).bufSize.toNat =
      3 * (stride.toNat * slice.toNat) % 2 ^ 32 / 2 := by
  have h₂ : (2 : UInt32).toNat = 2 := rfl
  have h₃ : (3 : UInt32).toNat = 3 := rfl
  rw [IonLayout.twoPlanes, UInt32.toNat_div, UInt32.toNat_mul, UInt32.toNat_mul, h₂, h₃,
    Nat.mod_mul_mod, Nat.mul_comm]

theorem twoPlanes_len_iff (stride slice : UInt32) (h : 2 ∣ stride.toNat) :
    3 * (stride.toNat * slice.toNat) ≤
        2 * (allocLen (IonLayout.twoPlanes stride slice).bufSize).toNat ↔
      3 * (stride.toNat * slice.toNat) < 2 ^ 32 := by
  obtain ⟨k, hk⟩ := Dvd.dvd.mul_right h slice.toNat
  rw [toNat_allocLen, toNat_twoPlanes_bufSize, hk]
  generalize hx : 3 * (2 * k) % 2 ^ 32 / 2 = x
  have hle := le_up x (show 0 < 4096 by decide)
  have hlt := up_lt x (show 0 < 4096 by decide)
  have hpage : up x 4096 ≤ 2 ^ 31 := up_le_of_dvd (by decide) (by omega) (by decide)
  rw [Nat.mod_eq_of_lt (by omega)]
  omega

/-! ## One plane -/

theorem raw10_row_iff (w : ℕ) (hw : w < 2 ^ 32) :
    5 * w ⌈/⌉ 4 ≤ up (5 * w % 2 ^ 32 / 4) 16 ↔
      5 * w < 2 ^ 32 ∧ ¬ (1 ≤ 5 * w % 64 ∧ 5 * w % 64 ≤ 3) := by
  rw [up_eq_ite _ (by decide), Nat.ceilDiv_eq_add_pred_div]
  by_cases hcut : 5 * w < 2 ^ 32
  · have hdiv : 5 * w / 4 / 16 = 5 * w / 64 := Nat.div_div_eq_div_mul _ _ _
    rw [Nat.mod_eq_of_lt hcut]
    split_ifs <;> omega
  · have hlt := Nat.mod_lt (5 * w) (show 0 < 2 ^ 32 by decide)
    split_ifs <;> omega

theorem raw12_row_iff (w : ℕ) (hw : w < 2 ^ 32) :
    3 * w ⌈/⌉ 2 ≤ up (3 * w % 2 ^ 32 / 2) 16 ↔ 3 * w < 2 ^ 32 ∧ 3 * w % 32 ≠ 1 := by
  rw [up_eq_ite _ (by decide), Nat.ceilDiv_eq_add_pred_div]
  by_cases hcut : 3 * w < 2 ^ 32
  · have hdiv : 3 * w / 2 / 16 = 3 * w / 32 := Nat.div_div_eq_div_mul _ _ _
    rw [Nat.mod_eq_of_lt hcut]
    split_ifs <;> omega
  · have hlt := Nat.mod_lt (3 * w) (show 0 < 2 ^ 32 by decide)
    split_ifs <;> omega

theorem toNat_rawStride (width : UInt32) {k d : UInt32} (hd : 1 < d.toNat) :
    (align (width * k / d) 16).toNat = up (k.toNat * width.toNat % 2 ^ 32 / d.toNat) 16 := by
  have h₁₆ : (16 : UInt32).toNat = 16 := rfl
  have hcut : k.toNat * width.toNat % 2 ^ 32 < 2 ^ 32 := Nat.mod_lt _ (by decide)
  have hhalf : k.toNat * width.toNat % 2 ^ 32 / d.toNat ≤ k.toNat * width.toNat % 2 ^ 32 / 2 :=
    Nat.div_le_div_left hd (by decide)
  have hlt := up_lt (k.toNat * width.toNat % 2 ^ 32 / d.toNat) (show 0 < 16 by decide)
  rw [toNat_align _ (by decide), UInt32.toNat_div, UInt32.toNat_mul, h₁₆,
    Nat.mul_comm width.toNat, Nat.mod_eq_of_lt (by omega)]

theorem largeEnough_onePlane_iff {f : PixelFormat} (hf : f.halfPlanes = 2)
    (width height stride : UInt32) :
    LargeEnough f width height (.onePlane stride height) ↔
      f.rowBytes width.toNat ≤ stride.toNat ∧ up (stride.toNat * height.toNat) 4096 < 2 ^ 32 := by
  constructor
  · rintro ⟨hrow, -, hlen, -⟩
    rw [hf] at hlen
    exact ⟨hrow, (onePlane_len_iff stride height).mp hlen⟩
  · rintro ⟨hrow, hlen⟩
    refine ⟨hrow, le_rfl, ?_, dvd_allocLen _⟩
    rw [hf]
    exact (onePlane_len_iff stride height).mpr hlen

theorem largeEnough_raw16_iff {f : PixelFormat} (hf : f = .y16 ∨ f = .raw16) {width height : UInt32}
    (hh : 1 ≤ height.toNat) :
    LargeEnough f width height (.onePlane (width * 2) height) ↔
      up (2 * width.toNat * height.toNat) 4096 < 2 ^ 32 := by
  have h₂ : (2 : UInt32).toNat = 2 := rfl
  have hrow : f.rowBytes width.toNat = 2 * width.toNat := by
    rcases hf with rfl | rfl <;> rfl
  have hhalf : f.halfPlanes = 2 := by
    rcases hf with rfl | rfl <;> rfl
  rw [largeEnough_onePlane_iff hhalf, hrow, UInt32.toNat_mul, h₂, Nat.mul_comm width.toNat 2]
  constructor
  · rintro ⟨hle, hlen⟩
    have hcut : 2 * width.toNat < 2 ^ 32 := lt_of_le_of_lt hle (Nat.mod_lt _ (by decide))
    rwa [Nat.mod_eq_of_lt hcut] at hlen
  · intro hlen
    have hprod : 2 * width.toNat * 1 ≤ 2 * width.toNat * height.toNat := Nat.mul_le_mul_left _ hh
    have hle := le_up (2 * width.toNat * height.toNat) (show 0 < 4096 by decide)
    have hcut : 2 * width.toNat < 2 ^ 32 := by omega
    rw [Nat.mod_eq_of_lt hcut]
    exact ⟨le_rfl, hlen⟩

/-! ## Two planes -/

/-- An alignment in whole pairs of pixels that divides the machine word. -/
structure WordAlignment (a : UInt32 × UInt32) : Prop where
  pos₁ : 0 < a.1.toNat
  pos₂ : 0 < a.2.toNat
  even : 2 ∣ a.1.toNat
  dvd₁ : a.1.toNat ∣ 2 ^ 32
  dvd₂ : a.2.toNat ∣ 2 ^ 32

theorem wordAlignment_encoderAlignment (socId : UInt32) :
    WordAlignment (encoderAlignment socId) := by
  unfold encoderAlignment
  split_ifs <;> constructor <;> decide

theorem wordAlignment_ycbcr420 {socId : UInt32} {usage : UInt64} {a : UInt32 × UInt32}
    (ha : ycbcr420Alignment socId usage = some a) : WordAlignment a := by
  unfold ycbcr420Alignment at ha
  split_ifs at ha
  · obtain rfl := Option.some.inj ha
    exact wordAlignment_encoderAlignment socId
  · obtain rfl := Option.some.inj ha
    constructor <;> decide

theorem largeEnough_twoPlanes_iff {f : PixelFormat}
    (hf : f = .implementationDefined ∨ f = .ycbcr420) {a : UInt32 × UInt32} (ha : WordAlignment a)
    {width height : UInt32} (hw : 1 ≤ width.toNat) (hh : 1 ≤ height.toNat) :
    LargeEnough f width height (.twoPlanes (align width a.1) (align height a.2)) ↔
      TwoPlanesFit a width.toNat height.toNat := by
  have hrow : f.rowBytes width.toNat = width.toNat := by
    rcases hf with rfl | rfl <;> rfl
  have hhalf : f.halfPlanes = 3 := by
    rcases hf with rfl | rfl <;> rfl
  have hstride := toNat_align width ha.pos₁
  have hslice := toNat_align height ha.pos₂
  have heven : 2 ∣ (align width a.1).toNat := by
    rw [hstride]
    exact ha.even.trans ((Nat.dvd_mod_iff ha.dvd₁).mpr (dvd_up _ _))
  have hlen := twoPlanes_len_iff (align width a.1) (align height a.2) heven
  constructor
  · rintro ⟨hle₁, hle₂, hle₃, -⟩
    rw [hrow] at hle₁
    rw [hhalf] at hle₃
    simp only [IonLayout.twoPlanes] at hle₁ hle₂ hle₃
    have hfit₁ : up width.toNat a.1.toNat < 2 ^ 32 :=
      (le_up_mod_iff ha.pos₁ (by decide) ha.dvd₁).mp (by
        rwa [Nat.mod_eq_of_lt width.toNat_lt, ← hstride])
    have hfit₂ : up height.toNat a.2.toNat < 2 ^ 32 :=
      (le_up_mod_iff ha.pos₂ (by decide) ha.dvd₂).mp (by
        rwa [Nat.mod_eq_of_lt height.toNat_lt, ← hslice])
    have hprod := hlen.mp hle₃
    rwa [hstride, hslice, Nat.mod_eq_of_lt hfit₁, Nat.mod_eq_of_lt hfit₂] at hprod
  · intro hprod
    have hpos₁ := up_pos ha.pos₁ hw
    have hpos₂ := up_pos ha.pos₂ hh
    have hle₁ := Nat.le_mul_of_pos_right (up width.toNat a.1.toNat) hpos₂
    have hle₂ := Nat.le_mul_of_pos_left (up height.toNat a.2.toNat) hpos₁
    unfold TwoPlanesFit at hprod
    have hfit₁ : (align width a.1).toNat = up width.toNat a.1.toNat := by
      rw [hstride, Nat.mod_eq_of_lt (by omega)]
    have hfit₂ : (align height a.2).toNat = up height.toNat a.2.toNat := by
      rw [hslice, Nat.mod_eq_of_lt (by omega)]
    refine ⟨?_, ?_, ?_, dvd_allocLen _⟩
    · rw [hrow]
      exact hfit₁ ▸ le_up width.toNat ha.pos₁
    · exact hfit₂ ▸ le_up height.toNat ha.pos₂
    · rw [hhalf]
      exact hlen.mpr (by rwa [hfit₁, hfit₂])

/-! ## Every format -/

theorem not_largeEnough_of_stride {f : PixelFormat} (hf : f = .ycbcr420) {width height : UInt32}
    (hw : 1 ≤ width.toNat) : ¬ LargeEnough f width height (.twoPlanes 0 0) := by
  rintro ⟨hrow, -, -, -⟩
  subst hf
  exact absurd (hw.trans hrow) (by decide)

/-- **When a layout is large enough**, for any format but `BLOB`. -/
theorem largeEnough_ionLayout_iff {socId width height : UInt32} {usage : UInt64} {f : PixelFormat}
    (hf : f ≠ .blob) (hw : 1 ≤ width.toNat) (hh : 1 ≤ height.toNat) :
    LargeEnough f width height (ionLayout socId width height usage f) ↔
      LayoutFits socId (ycbcr420Alignment socId usage) width.toNat height.toNat f := by
  have h₂ : (2 : UInt32).toNat = 2 := rfl
  have h₃ : (3 : UInt32).toNat = 3 := rfl
  have h₄ : (4 : UInt32).toNat = 4 := rfl
  have h₅ : (5 : UInt32).toNat = 5 := rfl
  cases f with
  | y16 => exact largeEnough_raw16_iff (.inl rfl) hh
  | raw16 => exact largeEnough_raw16_iff (.inr rfl) hh
  | raw10 =>
      rw [ionLayout, LayoutFits, largeEnough_onePlane_iff rfl, toNat_rawStride _ (by decide), h₄,
        h₅, PixelFormat.rowBytes, raw10_row_iff _ width.toNat_lt, and_assoc]
      refine and_congr_right fun hcut => and_congr_right fun _ => ?_
      rw [Nat.mod_eq_of_lt hcut]
  | raw12 =>
      rw [ionLayout, LayoutFits, largeEnough_onePlane_iff rfl, toNat_rawStride _ (by decide), h₂,
        h₃, PixelFormat.rowBytes, raw12_row_iff _ width.toNat_lt, and_assoc]
      refine and_congr_right fun hcut => and_congr_right fun _ => ?_
      rw [Nat.mod_eq_of_lt hcut]
  | implementationDefined =>
      exact largeEnough_twoPlanes_iff (.inl rfl) (wordAlignment_encoderAlignment socId) hw hh
  | ycbcr420 =>
      rw [LayoutFits, ionLayout]
      cases ha : ycbcr420Alignment socId usage with
      | none => simpa using not_largeEnough_of_stride rfl hw
      | some a =>
          simpa using largeEnough_twoPlanes_iff (.inr rfl) (wordAlignment_ycbcr420 ha) hw hh
  | blob => exact absurd rfl hf

/-- What a stream of a test case is aligned to in `HAL_PIXEL_FORMAT_YCBCR_420_888`, by its index. -/
def streamAlignment (socId : UInt32) (c : Config) : TestCase → ℕ → Option (UInt32 × UInt32)
  | .previewSnapshot, 0 => if c.zslEnabled then some (64, 64) else none
  | .previewVideo, 0 | .hal3TestVideo, 0 =>
      some (if c.previewStream.type = some .videoRecord then encoderAlignment socId else (64, 64))
  | .previewVideo, 1 | .hal3TestVideo, 1 | .videoOnly, 0 => some (encoderAlignment socId)
  | .hal3TestVideo, 2 => if c.heicSnapshot then some (encoderAlignment socId) else none
  | _, _ => none

theorem ycbcr420Alignment_videoUsage (socId : UInt32) (c : Config) :
    ycbcr420Alignment socId (videoUsage c).toUInt64 = some (encoderAlignment socId) := by
  rw [ycbcr420Alignment, if_pos]
  unfold videoUsage
  split_ifs <;> decide

theorem ycbcr420Alignment_previewUsage (socId : UInt32) (c : Config) :
    ycbcr420Alignment socId (previewUsage c).toUInt64 =
      some (if c.previewStream.type = some .videoRecord then encoderAlignment socId
        else (64, 64)) := by
  unfold previewUsage
  split_ifs
  · rw [ycbcr420Alignment, if_pos (by decide)]
  · rw [ycbcr420Alignment, if_neg (by decide), if_pos (by decide)]

theorem ycbcr420Alignment_zslUsage (socId : UInt32) :
    ycbcr420Alignment socId (usageHwComposer ||| usageHwTexture ||| usageHwCameraRead |||
      usageHwCameraWrite).toUInt64 = some (64, 64) := by
  rw [ycbcr420Alignment, if_neg (by decide), if_pos (by decide)]

theorem ycbcr420Alignment_heicUsage (socId : UInt32) :
    ycbcr420Alignment socId (usageHwVideoEncoder ||| usageHwCameraWrite).toUInt64 =
      some (encoderAlignment socId) := by
  rw [ycbcr420Alignment, if_pos (by decide)]

/-- A buffer that only the camera and the CPU use is not aligned. -/
theorem ycbcr420Alignment_cpuUsage (socId : UInt32) {usage : UInt32}
    (h : usage = cpuUsage ∨ usage = usageSwReadOften ∨
      usage = usageSwReadOften ||| usageSwWriteOften) :
    ycbcr420Alignment socId usage.toUInt64 = none := by
  rcases h with rfl | rfl | rfl <;> rw [ycbcr420Alignment, if_neg (by decide), if_neg (by decide)]

/-- **The usage flags of a stream select its alignment.** -/
theorem ycbcr420Alignment_usage {d : Characteristics} {c : Config} {tc : TestCase} {i : ℕ}
    {s : Stream} (hs : (preInitStreams d c tc)[i]? = some s) (socId : UInt32) :
    ycbcr420Alignment socId s.usage.toUInt64 = streamAlignment socId c tc i := by
  have hcpu := @ycbcr420Alignment_cpuUsage socId
  have hpreview := ycbcr420Alignment_previewUsage socId c
  have hvideo := ycbcr420Alignment_videoUsage socId c
  cases tc with
  | previewOnly =>
      rcases i with _ | i
      · obtain rfl : previewOnlyStream c = s := by simpa [preInitStreams] using hs
        exact hcpu (.inl rfl)
      · simp [preInitStreams] at hs
  | previewSnapshot =>
      rcases i with _ | _ | i
      · obtain rfl : zslPreviewStream c = s := by simpa [preInitStreams] using hs
        rw [zslPreviewStream, streamAlignment]
        split_ifs
        · exact ycbcr420Alignment_zslUsage socId
        · exact hcpu (.inl rfl)
      · obtain rfl : snapshotStream c = s := by simpa [preInitStreams] using hs
        exact hcpu (.inr (.inl rfl))
      · simp [preInitStreams] at hs
  | previewVideo =>
      rcases i with _ | _ | i
      · obtain rfl : videoPreviewStream c _ = s := by simpa [preInitStreams] using hs
        exact hpreview
      · obtain rfl : videoStream c = s := by simpa [preInitStreams] using hs
        exact hvideo
      · simp [preInitStreams] at hs
  | videoOnly =>
      rcases i with _ | i
      · obtain rfl : videoStream c = s := by simpa [preInitStreams] using hs
        exact hvideo
      · simp [preInitStreams] at hs
  | hal3TestVideo =>
      rcases i with _ | _ | _ | _ | i
      · obtain rfl : videoPreviewStream c .yuv420NV12 = s := by
          rw [preInitStreams] at hs
          split_ifs at hs <;> simpa using hs
        exact hpreview
      · obtain rfl : videoStream c = s := by
          rw [preInitStreams] at hs
          split_ifs at hs <;> simpa using hs
        exact hvideo
      · obtain rfl : videoSnapshotStream c = s := by
          rw [preInitStreams] at hs
          split_ifs at hs
          · simpa using hs
          · simpa using hs
          · simp at hs
        rw [videoSnapshotStream, streamAlignment]
        split_ifs
        · exact ycbcr420Alignment_heicUsage socId
        · exact hcpu (.inr (.inl rfl))
      · obtain rfl : videoRawSnapshotStream d c = s := by
          rw [preInitStreams] at hs
          split_ifs at hs
          · simpa using hs
          · simp at hs
          · simp at hs
        exact hcpu (.inr (.inl rfl))
      · rw [preInitStreams] at hs
        split_ifs at hs <;> simp at hs
  | hal3TestDepth =>
      rcases i with _ | _ | i
      · obtain rfl : depthCaseStream c c.depthStream .depth = s := by
          simpa [preInitStreams] using hs
        exact hcpu (.inr (.inr rfl))
      · obtain rfl : depthCaseStream c c.depthIRBGStream .irbg = s := by
          rw [preInitStreams] at hs
          split_ifs at hs
          · simpa using hs
          · simp at hs
        exact hcpu (.inr (.inr rfl))
      · rw [preInitStreams] at hs
        split_ifs at hs <;> simp at hs

/-- **The layout of a stream that a test case describes is large enough exactly for the sizes of
`LayoutFits`**, whatever the size of the image and the SoC. -/
theorem largeEnough_iff {d : Characteristics} {c : Config} {tc : TestCase} {i : ℕ} {s : Stream}
    (hs : (preInitStreams d c tc)[i]? = some s) (jpegBufferSize : UInt32 → UInt32 → Int32)
    {socId width height : UInt32} {f : PixelFormat} {l : IonLayout}
    (hl : ionLayoutOf socId width height (preAllocateArgs jpegBufferSize s).format
      (preAllocateArgs jpegBufferSize s).consumerFlags = some (f, l))
    (hf : f ≠ .blob) (hw : 1 ≤ width.toNat) (hh : 1 ≤ height.toNat) :
    LargeEnough f width height l ↔
      LayoutFits socId (streamAlignment socId c tc i) width.toNat height.toNat f := by
  obtain ⟨f', -, hfl⟩ := Option.map_eq_some_iff.mp hl
  obtain ⟨rfl, rfl⟩ := Prod.mk.inj hfl
  rw [← ycbcr420Alignment_usage hs socId]
  exact largeEnough_ionLayout_iff hf hw hh

/-- A preview in `RAW10`, of width 13. -/
def raw10Config : Config where
  previewStream := { width := 13, height := 2, format := halPixelFormatRaw10 }

theorem preInitStreams_raw10Config :
    (preInitStreams ⟨none, [], (0, 0)⟩ raw10Config .previewOnly)[0]? =
      some (previewOnlyStream raw10Config) := rfl

theorem largeEnough_raw10_16 :
    LargeEnough .raw10 16 2 (ionLayout 0 16 2 cpuUsage.toUInt64 .raw10) :=
  (largeEnough_iff preInitStreams_raw10Config (fun _ _ => 0) rfl (by decide) (by decide)
    (by decide)).mpr ⟨by decide, by decide, by decide⟩

/-- A row of 13 pixels in `RAW10` takes 17 bytes, and the stride is 16. -/
theorem raw10_stride_too_small :
    ∃ s, (preInitStreams ⟨none, [], (0, 0)⟩ raw10Config .previewOnly)[0]? = some s ∧
      s.pstream = ⟨13, 2, halPixelFormatRaw10⟩ ∧
      (ionLayout 0 13 2 s.usage.toUInt64 .raw10).stride = 16 ∧
      ¬ LargeEnough .raw10 13 2 (ionLayout 0 13 2 s.usage.toUInt64 .raw10) := by
  refine ⟨previewOnlyStream raw10Config, rfl, by decide, by decide, ?_⟩
  rintro ⟨hrow, -, -, -⟩
  exact absurd hrow (by decide)

end QCamx
