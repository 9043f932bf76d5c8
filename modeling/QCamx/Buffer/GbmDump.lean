import QCamx.Buffer.DumpFrame

/-!
# Dumps of GBM buffers

`allocate_one_gbm_buffer` asks the library for the stride and the size of an object, and takes the
number of rows before the chroma plane to be the size divided by one and a half times the stride.
`dump_frame` finds the chroma rows by it.

* `gbmBufferInfo`: the `BufferInfo` that a successful call writes;
* `YuvObject`: how the library lays a 4:2:0 image out in an object;
* `slice_eq_iff`: the computed number of rows is that of the object where the object has less than
  one and a half rows of padding;
* **`gbm_dump_iff`**: no dump leaves the object, and those of the objects with so little padding
  are the image.
-/

namespace QCamx

/-! ## The record of a buffer -/

/-- The `BufferInfo` that a successful call of `allocate_one_gbm_buffer` writes, for an object with
a stride and a size; there is none where it divides by zero. -/
def gbmBufferInfo (width height format stride : UInt32) (boSize : UInt64) : Option BufferInfo :=
  if stride * 3 / 2 = 0 then none
  else
    some {
      size := boSize.toUInt32.toInt32
      width := width.toInt32
      height := height.toInt32
      stride := stride.toInt32
      slice := (boSize / (stride * 3 / 2).toUInt64).toUInt32.toInt32
      format := format }

/-- The layout of a 4:2:0 image in an object: `scanlines` rows of luma and half as many of chroma,
`stride` bytes apart. -/
structure YuvObject (width height stride : UInt32) (scanlines : ℕ) (boSize : UInt64) : Prop where
  width_pos : 1 ≤ width.toNat
  width_le : width.toNat ≤ stride.toNat
  even : 2 ∣ stride.toNat
  height_pos : 1 ≤ height.toNat
  height_le : height.toNat ≤ scanlines
  size_ge : stride.toNat * 3 / 2 * scanlines ≤ boSize.toNat
  size_lt : boSize.toNat < 2 ^ 31

/-- The bytes of the image in an object: of its luma rows, and of its chroma rows. -/
def objectBytes (mem : ℤ → UInt8) (width height stride : UInt32) (scanlines : ℕ) : List UInt8 :=
  rowBytes mem 0 stride.toNat width.toNat height.toNat ++
    rowBytes mem (stride.toNat * scanlines) stride.toNat width.toNat (height.toNat / 2)

section Object

variable {width height format stride : UInt32} {scanlines : ℕ} {boSize : UInt64}
  {info : BufferInfo} {subformat : Implsubformat}

namespace YuvObject

theorem rowAndHalf_pos (h : YuvObject width height stride scanlines boSize) :
    3 ≤ stride.toNat * 3 / 2 := by
  obtain ⟨k, hk⟩ := h.even
  have hpos := h.width_pos
  have hle := h.width_le
  omega

theorem rowAndHalf_lt (h : YuvObject width height stride scanlines boSize) :
    stride.toNat * 3 / 2 < 2 ^ 31 := by
  have hone : 1 ≤ scanlines := h.height_pos.trans h.height_le
  calc stride.toNat * 3 / 2 = stride.toNat * 3 / 2 * 1 := (Nat.mul_one _).symm
    _ ≤ stride.toNat * 3 / 2 * scanlines := Nat.mul_le_mul_left _ hone
    _ ≤ boSize.toNat := h.size_ge
    _ < 2 ^ 31 := h.size_lt

theorem toNat_rowAndHalf (h : YuvObject width height stride scanlines boSize) :
    (stride * 3 / 2).toNat = stride.toNat * 3 / 2 := by
  have hlt := h.rowAndHalf_lt
  rw [UInt32.toNat_div, UInt32.toNat_mul]
  show stride.toNat * 3 % 2 ^ 32 / 2 = stride.toNat * 3 / 2
  rw [Nat.mod_eq_of_lt (by omega)]

theorem scanlines_le (h : YuvObject width height stride scanlines boSize) :
    scanlines ≤ boSize.toNat / (stride.toNat * 3 / 2) := by
  have hpos := h.rowAndHalf_pos
  rw [Nat.le_div_iff_mul_le (by omega), Nat.mul_comm]
  exact h.size_ge

theorem slice_lt (h : YuvObject width height stride scanlines boSize) :
    boSize.toNat / (stride.toNat * 3 / 2) < 2 ^ 31 :=
  (Nat.div_le_self _ _).trans_lt h.size_lt

end YuvObject

theorem gbmBufferInfo_eq (h : YuvObject width height stride scanlines boSize)
    (hinfo : gbmBufferInfo width height format stride boSize = some info) :
    info.size.toInt = boSize.toNat ∧ info.width.toInt = width.toNat ∧
      info.height.toInt = height.toNat ∧ info.stride.toInt = stride.toNat ∧
      info.slice.toInt = (boSize.toNat / (stride.toNat * 3 / 2) : ℕ) ∧ info.format = format := by
  unfold gbmBufferInfo at hinfo
  split_ifs at hinfo
  obtain rfl := Option.some.inj hinfo
  have hsize := h.size_lt
  have hslice := h.slice_lt
  have hstride := h.rowAndHalf_lt
  have hwidth := h.width_le
  have hheight := h.height_le.trans h.scanlines_le
  have hsmall : ∀ n : UInt64, n.toNat < 2 ^ 31 → n.toUInt32.toNat = n.toNat := by
    intro n hn
    rw [UInt64.toNat_toUInt32, Nat.mod_eq_of_lt (by omega)]
  have hquotient : (boSize / (stride * 3 / 2).toUInt64).toNat =
      boSize.toNat / (stride.toNat * 3 / 2) := by
    rw [UInt64.toNat_div, UInt32.toNat_toUInt64, h.toNat_rowAndHalf]
  refine ⟨?_, toInt_of_lt (by omega), toInt_of_lt (by omega), toInt_of_lt (by omega), ?_, rfl⟩
  · have hs := hsmall boSize hsize
    rw [toInt_of_lt (by omega), hs]
  · have hs := hsmall _ (hquotient ▸ hslice)
    rw [toInt_of_lt (by omega), hs, hquotient]

/-- **The rows are counted right** exactly where there is less than one and a half rows of
padding. -/
theorem slice_eq_iff (h : YuvObject width height stride scanlines boSize) :
    boSize.toNat / (stride.toNat * 3 / 2) = scanlines ↔
      boSize.toNat < stride.toNat * 3 / 2 * (scanlines + 1) := by
  have hpos := h.rowAndHalf_pos
  have hle := h.scanlines_le
  have hdiv : boSize.toNat / (stride.toNat * 3 / 2) < scanlines + 1 ↔
      boSize.toNat < stride.toNat * 3 / 2 * (scanlines + 1) := by
    rw [Nat.div_lt_iff_lt_mul (by omega), Nat.mul_comm]
  omega

/-! ## The dump -/

theorem planarInfo_of_gbm (h : YuvObject width height stride scanlines boSize)
    (hinfo : gbmBufferInfo width height format stride boSize = some info) : PlanarInfo info := by
  obtain ⟨hsize, hwidth, hheight, hstride, hslice, -⟩ := gbmBufferInfo_eq h hinfo
  have hw := h.width_pos
  have hwle := h.width_le
  have hh := h.height_pos
  have hhle := h.height_le.trans h.scanlines_le
  refine ⟨by omega, by omega, by omega, by omega, ?_⟩
  -- the stride is even: nothing is lost in one and a half rows
  obtain ⟨k, hk⟩ := h.even
  have hrow : stride.toNat * 3 / 2 = 3 * k := by omega
  have hmul : 3 * k * (boSize.toNat / (3 * k)) ≤ boSize.toNat := Nat.mul_div_le _ _
  rw [hsize, hstride, hslice, hrow, hk]
  have hprod : ((2 * k : ℕ) : ℤ) * ((boSize.toNat / (3 * k) : ℕ) : ℤ) * 3 =
      ((3 * k * (boSize.toNat / (3 * k)) : ℕ) : ℤ) * 2 := by
    push_cast
    ring
  rw [hprod]
  omega

theorem fileContent_gbm (h : YuvObject width height stride scanlines boSize)
    (hinfo : gbmBufferInfo width height format stride boSize = some info)
    (hformat : dumpFormat format subformat = some .ycbcr420) (mem : ℤ → UInt8) :
    fileContent mem (dumpFrame mem info subformat) =
      some (objectBytes mem width height stride (boSize.toNat / (stride.toNat * 3 / 2))) := by
  obtain ⟨-, hwidth, hheight, hstride, hslice, hf⟩ := gbmBufferInfo_eq h hinfo
  rw [dumpFrame_eq_planarRanges (hf ▸ hformat) (planarInfo_of_gbm h hinfo), planarRanges,
    fileContent_append, fileContent_rowRanges, fileContent_rowRanges, hwidth, hheight, hstride,
    hslice, objectBytes, Int.toNat_natCast, Int.toNat_natCast]
  rfl

theorem head?_rowBytes (mem : ℤ → UInt8) (start stride : ℤ) {n count : ℕ} (hn : 1 ≤ n)
    (hcount : 1 ≤ count) : (rowBytes mem start stride n count).head? = some (mem start) := by
  obtain ⟨n, rfl⟩ : ∃ m, n = m + 1 := ⟨n - 1, by omega⟩
  obtain ⟨count, rfl⟩ : ∃ m, count = m + 1 := ⟨count - 1, by omega⟩
  simp [rowBytes, List.range_succ_eq_map]

/-- Chroma rows of two places are told apart. -/
theorem objectBytes_inj (hw : 1 ≤ width.toNat) (hle : width.toNat ≤ stride.toNat)
    (hh : 2 ≤ height.toNat) {m n : ℕ}
    (h : ∀ mem, objectBytes mem width height stride m = objectBytes mem width height stride n) :
    m = n := by
  -- a memory with one byte set, the first of the chroma rows behind `n` rows
  have hmem := List.append_cancel_left
    (h fun o => if o = (stride.toNat : ℤ) * (n : ℤ) then 1 else 0)
  have hhead := congrArg List.head? hmem
  rw [head?_rowBytes _ _ _ hw (by omega), head?_rowBytes _ _ _ hw (by omega)] at hhead
  simp only [if_true, Option.some.injEq] at hhead
  split_ifs at hhead with heq
  · have hmul : stride.toNat * m = stride.toNat * n := by exact_mod_cast heq
    exact Nat.eq_of_mul_eq_mul_left (by omega) hmul
  · cases hhead

/-- **A dump never leaves the object, and it is the image exactly if it has no chroma rows or the
object less than one and a half rows of padding.** -/
theorem gbm_dump_iff (h : YuvObject width height stride scanlines boSize)
    (hinfo : gbmBufferInfo width height format stride boSize = some info)
    (hformat : dumpFormat format subformat = some .ycbcr420) :
    (∀ mem, ∀ r ∈ dumpFrame mem info subformat, r.Inside info.size.toInt) ∧
      ((∀ mem, fileContent mem (dumpFrame mem info subformat) =
          some (objectBytes mem width height stride scanlines)) ↔
        height.toNat = 1 ∨ boSize.toNat < stride.toNat * 3 / 2 * (scanlines + 1)) := by
  have hplanar := planarInfo_of_gbm h hinfo
  obtain ⟨-, -, -, -, -, hf⟩ := gbmBufferInfo_eq h hinfo
  constructor
  · intro mem
    rw [dumpFrame_eq_planarRanges (hf ▸ hformat) hplanar mem]
    exact inside_planarRanges hplanar
  · have hpos := h.height_pos
    simp only [fileContent_gbm h hinfo hformat, Option.some.injEq]
    rw [← slice_eq_iff h]
    constructor
    · intro heq
      by_cases hone : height.toNat = 1
      · exact Or.inl hone
      · exact Or.inr (objectBytes_inj h.width_pos h.width_le (by omega) heq)
    · rintro (hone | hslice) mem
      · simp [objectBytes, rowBytes, hone]
      · rw [hslice]

/-- An object of whole pages for an image of 640 by 480: the chroma rows are taken from behind 482
rows. -/
theorem gbm_dump_vga :
    ∃ info, gbmBufferInfo 640 480 35 640 462848 = some info ∧ info.slice = 482 ∧
      (∀ mem, ∀ r ∈ dumpFrame mem info .none, r.Inside info.size.toInt) ∧
      ¬ ∀ mem, fileContent mem (dumpFrame mem info .none) =
        some (objectBytes mem 640 480 640 480) := by
  have hobject : YuvObject 640 480 640 480 462848 :=
    ⟨by decide, by decide, by decide, by decide, by decide, by decide, by decide⟩
  obtain ⟨info, hinfo, hslice⟩ : ∃ info,
      gbmBufferInfo 640 480 35 640 462848 = some info ∧ info.slice = 482 := ⟨_, rfl, by decide⟩
  have hdump := gbm_dump_iff hobject hinfo (show dumpFormat 35 .none = some .ycbcr420 by decide)
  refine ⟨info, hinfo, hslice, hdump.1, fun hright => ?_⟩
  exact absurd (hdump.2.mp hright) (by decide)

end Object

end QCamx
