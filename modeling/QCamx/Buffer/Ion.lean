import QCamx.Config
import QCamx.Lib.Align

/-!
# The layout of an ION buffer

What `allocate_one_ion_buffer` computes from a size, a format, the consumer's usage flags and the
SoC before it asks for memory, in `uint32_t` as written. The length goes through `size_t`, but the
mask `~4095U` has 32 bits, so it is cut to 32 bits too.

* `align`, `ionLayout`, `allocLen`: `ALIGN`, the `switch` on the format, the length in pages;
* `BufferInfo`, `allocateOneIonBuffer`: the record that a successful call leaves;
* **`toNat_align`**, **`toNat_allocLen`**: both round up, modulo `2 ^ 32`.
-/

namespace QCamx

open Align

/-! ## Formats, usage flags and SoCs -/

/-- The pixel formats that a `switch` of the program names. -/
inductive PixelFormat
  | y16 | raw16 | raw10 | raw12 | implementationDefined | ycbcr420 | blob
  deriving DecidableEq, Repr

/-- The value of `HAL_PIXEL_FORMAT_…`. -/
def PixelFormat.value : PixelFormat → UInt32
  | y16 => halPixelFormatY16.toUInt32
  | raw16 => halPixelFormatRaw16.toUInt32
  | raw10 => halPixelFormatRaw10.toUInt32
  | raw12 => halPixelFormatRaw12.toUInt32
  | implementationDefined => halPixelFormatImplementationDefined.toUInt32
  | ycbcr420 => halPixelFormatYCbCr420888.toUInt32
  | blob => (Int32.ofInt halPixelFormatBlob).toUInt32

/-- The case of a `switch` that a format takes; `none` is `default`. -/
def PixelFormat.ofValue (v : UInt32) : Option PixelFormat :=
  [y16, raw16, raw10, raw12, implementationDefined, ycbcr420, blob].find? (·.value = v)

/-- `GRALLOC_USAGE_SW_READ_OFTEN`. -/
def usageSwReadOften : UInt32 := 0x3

/-- `GRALLOC_USAGE_SW_WRITE_OFTEN`. -/
def usageSwWriteOften : UInt32 := 0x30

/-- `GRALLOC_USAGE_HW_TEXTURE`. -/
def usageHwTexture : UInt32 := 0x100

/-- `GRALLOC_USAGE_HW_COMPOSER`. -/
def usageHwComposer : UInt32 := 0x800

/-- `GRALLOC_USAGE_HW_VIDEO_ENCODER`. -/
def usageHwVideoEncoder : UInt32 := 0x10000

/-- `GRALLOC_USAGE_HW_CAMERA_WRITE`. -/
def usageHwCameraWrite : UInt32 := 0x20000

/-- `GRALLOC_USAGE_HW_CAMERA_READ`. -/
def usageHwCameraRead : UInt32 := 0x40000

/-- `GRALLOC_USAGE_PRIVATE_0`. -/
def usagePrivate0 : UInt32 := 0x10000000

/-- `GRALLOC_USAGE_PRIVATE_2`. -/
def usagePrivate2 : UInt32 := 0x40000000

/-- `CameraTitanSoc…`: SDM865, SM7250, QSM7250, QRB5165, QRB5165N, QCS7230, QRB3165, QRB3165N. -/
def cameraTitanSocs : List UInt32 := [356, 400, 440, 455, 496, 548, 598, 599]

/-! ## The layout -/

/-- `ALIGN`. -/
def align (operand alignment : UInt32) : UInt32 :=
  if operand % alignment = 0 then operand else operand - operand % alignment + alignment

/-- `stride`, `slice` and `buf_size`. -/
structure IonLayout where
  stride : UInt32
  slice : UInt32
  bufSize : UInt32
  deriving DecidableEq, Repr

/-- A layout of one plane. -/
def IonLayout.onePlane (stride slice : UInt32) : IonLayout := ⟨stride, slice, stride * slice⟩

/-- A layout of luma and chroma at half the height. -/
def IonLayout.twoPlanes (stride slice : UInt32) : IonLayout :=
  ⟨stride, slice, stride * slice * 3 / 2⟩

/-- What width and height are aligned to for the video encoder. -/
def encoderAlignment (socId : UInt32) : UInt32 × UInt32 :=
  if socId ∈ cameraTitanSocs then (512, 512) else (128, 32)

/-- The alignment of `HAL_PIXEL_FORMAT_YCBCR_420_888`; without a usage that the `if` knows, `stride`
and `slice` keep their initial value. -/
def ycbcr420Alignment (socId : UInt32) (consumerUsageFlags : UInt64) : Option (UInt32 × UInt32) :=
  if consumerUsageFlags &&& usageHwVideoEncoder.toUInt64 ≠ 0 then some (encoderAlignment socId)
  else if consumerUsageFlags &&& usageHwComposer.toUInt64 ≠ 0 ∨
      consumerUsageFlags &&& usageHwTexture.toUInt64 ≠ 0 then some (64, 64)
  else none

/-- The `switch` of `allocate_one_ion_buffer`. -/
def ionLayout (socId width height : UInt32) (consumerUsageFlags : UInt64) :
    PixelFormat → IonLayout
  | .y16 | .raw16 => .onePlane (width * 2) height
  | .raw10 => .onePlane (align (width * 5 / 4) 16) height
  | .raw12 => .onePlane (align (width * 3 / 2) 16) height
  | .implementationDefined =>
      .twoPlanes (align width (encoderAlignment socId).1) (align height (encoderAlignment socId).2)
  | .ycbcr420 =>
      match ycbcr420Alignment socId consumerUsageFlags with
      | some a => .twoPlanes (align width a.1) (align height a.2)
      | none => .twoPlanes 0 0
  | .blob => ⟨0, 0, width⟩

/-- The layout for the value of a format, with the case that computed it; `none` is `default`. -/
def ionLayoutOf (socId width height format : UInt32) (consumerUsageFlags : UInt64) :
    Option (PixelFormat × IonLayout) :=
  (PixelFormat.ofValue format).map fun f =>
    (f, ionLayout socId width height consumerUsageFlags f)

/-- `alloc.len`. -/
def allocLen (bufSize : UInt32) : UInt64 :=
  (bufSize.toUInt64 + 4095) &&& (~~~(4095 : UInt32)).toUInt64

/-! ## The buffer -/

/-- What the program reads of a `BufferInfo`. -/
structure BufferInfo where
  size : Int32
  width : Int32
  height : Int32
  stride : Int32
  slice : Int32
  format : UInt32
  deriving DecidableEq, Repr

/-- The `BufferInfo` that a call of `allocate_one_ion_buffer` writes, where the kernel gives out
`ionAlloc` and the handle is not of the compressed kind; `none` if it returns before. -/
def allocateOneIonBuffer (ionAlloc : UInt64 → Bool) (socId width height format : UInt32)
    (consumerUsageFlags : UInt64) : Option BufferInfo :=
  (ionLayoutOf socId width height format consumerUsageFlags).bind fun layout =>
    if ionAlloc (allocLen layout.2.bufSize) then
      some {
        size := (allocLen layout.2.bufSize).toUInt32.toInt32
        width := width.toInt32
        height := height.toInt32
        stride := layout.2.stride.toInt32
        slice := layout.2.slice.toInt32
        format := format }
    else none

/-! ## In natural numbers -/

/-- **`ALIGN` rounds up**, modulo `2 ^ 32`. -/
theorem toNat_align (x : UInt32) {a : UInt32} (ha : 0 < a.toNat) :
    (align x a).toNat = up x.toNat a.toNat % 2 ^ 32 := by
  have hmodle : x.toNat % a.toNat ≤ x.toNat := Nat.mod_le _ _
  have hx := x.toNat_lt
  rw [up_eq_ite _ ha, align]
  by_cases hr : x.toNat % a.toNat = 0
  · have hr' : x % a = 0 := by
      apply UInt32.toNat_inj.mp
      rw [UInt32.toNat_mod, hr]
      rfl
    rw [if_pos hr, if_pos hr', Nat.mod_eq_of_lt hx]
  · have hr' : x % a ≠ 0 := by
      intro h
      apply hr
      rw [← UInt32.toNat_mod, h]
      rfl
    have hle : x % a ≤ x := by
      rw [UInt32.le_iff_toNat_le, UInt32.toNat_mod]
      exact hmodle
    rw [if_neg hr, if_neg hr', UInt32.toNat_add, UInt32.toNat_sub_of_le _ _ hle, UInt32.toNat_mod]

theorem and_pageMask (n : ℕ) : n &&& 4294963200 = n / 4096 * 4096 % 2 ^ 32 := by
  have hmask : (4294963200 : ℕ) = (2 ^ 20 - 1) <<< 12 := by decide
  have hdiv : n / 4096 * 4096 = n >>> 12 <<< 12 := by
    rw [Nat.shiftLeft_eq, Nat.shiftRight_eq_div_pow]
  rw [hmask, hdiv]
  apply Nat.eq_of_testBit_eq
  intro i
  rw [Nat.testBit_and, Nat.testBit_shiftLeft, Nat.testBit_two_pow_sub_one, Nat.testBit_mod_two_pow,
    Nat.testBit_shiftLeft, Nat.testBit_shiftRight]
  by_cases hi : 12 ≤ i
  · have hlt : i - 12 < 20 ↔ i < 32 := by omega
    have hsum : 12 + (i - 12) = i := by omega
    simp [hi, hlt, hsum, Bool.and_comm]
  · simp [hi]

/-- **The length is the size in whole pages**, modulo `2 ^ 32`. -/
theorem toNat_allocLen (bufSize : UInt32) :
    (allocLen bufSize).toNat = up bufSize.toNat 4096 % 2 ^ 32 := by
  have hb := bufSize.toNat_lt
  have hmask : (~~~(4095 : UInt32)).toUInt64.toNat = 4294963200 := by decide
  have hsum : (bufSize.toUInt64 + 4095).toNat = bufSize.toNat + 4095 := by
    have hpage : (4095 : UInt64).toNat = 4095 := rfl
    rw [UInt64.toNat_add, UInt32.toNat_toUInt64, hpage, Nat.mod_eq_of_lt (by omega)]
  have hpred : bufSize.toNat + 4096 - 1 = bufSize.toNat + 4095 := by omega
  rw [allocLen, UInt64.toNat_and, hmask, hsum, and_pageMask, up, Nat.ceilDiv_eq_add_pred_div, hpred]

theorem dvd_allocLen (bufSize : UInt32) : 4096 ∣ (allocLen bufSize).toNat := by
  rw [toNat_allocLen]
  exact (Nat.dvd_mod_iff (by decide)).mpr (dvd_up _ _)

end QCamx
