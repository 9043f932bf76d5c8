import QCamx.Buffer.Ubwc

/-!
# What `dump_frame` writes

`dump_frame` hands ranges of the buffer to `fwrite`, one for each row of a planar image, one for
each plane of a compressed image, one for everything else. A pointer is an offset from `vaddr`; it
is undefined from where the `int` product that moved it has overflowed.

* `writeRows`, `writePlanes`, `dumpFrame`: the two nested loops, and the `switch` on the format;
* `Range.Inside`, `fileContent`: a range lies in the buffer, and the bytes of the file;
* **`dumpFrame_planar`**: the rows of a planar dump, their place and their bytes;
* **`totalLength_ubwc_iff`**: which compressed images are written in the length of their own format;
* `totalLength_p010`: one that is not.
-/

namespace QCamx

open Align

/-! ## Ranges -/

/-- The bytes that a call of `fwrite` is handed: where they start and how many there are. -/
structure Range where
  offset : Option ℤ
  length : Option ℕ
  deriving DecidableEq, Repr

/-- The range is inside of a buffer of `size` bytes. -/
def Range.Inside (size : ℤ) (r : Range) : Prop :=
  ∃ o n, r.offset = some o ∧ r.length = some n ∧ (n = 0 ∨ (0 ≤ o ∧ o + (n : ℕ) ≤ size))

/-- The bytes of a range. -/
def Range.bytes (mem : ℤ → UInt8) (r : Range) : Option (List UInt8) :=
  r.offset.bind fun o => r.length.map fun n => (List.range n).map fun i => mem (o + (i : ℕ))

/-- The bytes of the file. -/
def fileContent (mem : ℤ → UInt8) (ranges : List Range) : Option (List UInt8) :=
  (ranges.mapM (Range.bytes mem)).map List.flatten

/-- The length of the file. -/
def totalLength (ranges : List Range) : Option ℕ :=
  (ranges.mapM Range.length).map List.sum

/-! ## `int` and `size_t` -/

/-- An `int` result; there is none where it overflows. -/
def intOf (z : ℤ) : Option ℤ := if FitsInt z then some z else none

/-- An `int` as a `size_t`. -/
def toSize (z : ℤ) : ℕ := (z % 2 ^ 64).toNat

/-- `data += n`. -/
def advance (data n : Option ℤ) : Option ℤ := data.bind fun d => n.map fun n => d + n

/-! ## The loops -/

/-- The inner loop: `n` rows, and the pointer behind them. -/
def writeRows (length : Option ℕ) (step : Option ℤ) : ℕ → Option ℤ → List Range × Option ℤ
  | 0, data => ([], data)
  | n + 1, data =>
      let rest := writeRows length step n (advance data step)
      (⟨data, length⟩ :: rest.1, rest.2)

/-- The number of rounds of `for (int h = 0; h < height / idx; h++)`. -/
def rowCount (height idx : ℤ) : ℕ := (height.tdiv idx).toNat

/-- `stride * (slice - height)`. -/
def planePadding (stride slice height : ℤ) : Option ℤ :=
  (intOf (slice - height)).bind fun d => intOf (stride * d)

/-- The outer loop over the planes `idx`. -/
def writePlanes (stride slice height : ℤ) (length : Option ℕ) :
    List ℤ → Option ℤ → List Range
  | [], _ => []
  | idx :: rest, data =>
      let rows := writeRows length (some stride) (rowCount height idx) data
      rows.1 ++ writePlanes stride slice height length rest
        (advance rows.2 (planePadding stride slice height))

/-! ## The formats -/

/-- `Camera3JPEGBlob`. -/
structure Camera3JPEGBlob where
  jpegBlobId : UInt16
  jpegBlobSize : UInt32
  deriving DecidableEq, Repr

/-- `sizeof(Camera3JPEGBlob)`. -/
def sizeofJPEGBlob : ℤ := 8

/-- `JPEG_BLOB_ID`. -/
def jpegBlobId : UInt16 := 0xFF

/-- The trailer at the end of a buffer of `size` bytes. -/
def jpegTrailer (mem : ℤ → UInt8) (size : ℤ) : Camera3JPEGBlob :=
  let byte (i : ℤ) : ℕ := (mem (size - sizeofJPEGBlob + i)).toNat
  { jpegBlobId := UInt16.ofNat (byte 0 + 2 ^ 8 * byte 1)
    jpegBlobSize := UInt32.ofNat (byte 4 + 2 ^ 8 * byte 5 + 2 ^ 16 * byte 6 + 2 ^ 24 * byte 7) }

/-- The planes of a compressed image; the tile is the first of the table, whatever the subformat. -/
def ubwcPlanes (width height : Int32) : List YUVFormat :=
  let tileInfo := supportedUBWCYUVTileInfo.get ⟨0, by decide⟩
  [ubwcPlane tileInfo width.toUInt32 height.toUInt32,
    ubwcPlane tileInfo width.toUInt32 (height >>> 1).toUInt32]

theorem ubwcPlanes_eq (width height : Int32) :
    ubwcPlanes width height =
      [ubwcPlane tileTP10 width.toUInt32 height.toUInt32,
        ubwcPlane tileTP10 width.toUInt32 (height >>> 1).toUInt32] :=
  rfl

/-- The ranges of planes that follow each other from offset `data`. -/
def planeRanges : ℤ → List YUVFormat → List Range
  | _, [] => []
  | data, p :: ps =>
      ⟨some data, some p.planeSize.toNat⟩ :: planeRanges (data + (p.planeSize.toNat : ℕ)) ps

/-- The format that the `switch` of `dump_frame` sees. -/
def dumpFormat (format : UInt32) (subformat : Implsubformat) : Option PixelFormat :=
  if PixelFormat.ofValue format = some .implementationDefined ∧
      (subformat = .yuv420NV12 ∨ subformat = .yuv420NV21) then some .ycbcr420
  else PixelFormat.ofValue format

/-- `dump_frame`: the ranges it writes of a buffer whose memory is `mem`. -/
def dumpFrame (mem : ℤ → UInt8) (info : BufferInfo) (subformat : Implsubformat) : List Range :=
  let size := info.size.toInt
  let width := info.width.toInt
  let height := info.height.toInt
  let stride := info.stride.toInt
  let slice := info.slice.toInt
  match dumpFormat info.format subformat with
  | some .raw10 | some .raw12 => [⟨some 0, some (toSize size)⟩]
  | some .blob =>
      let jpegBlob := jpegTrailer mem size
      if jpegBlob.jpegBlobId = jpegBlobId then [⟨some 0, some jpegBlob.jpegBlobSize.toNat⟩]
      else [⟨some 0, some (toSize size)⟩]
  | some .ycbcr420 =>
      writePlanes stride slice height ((intOf (width * 1)).map toSize) [1, 2] (some 0)
  | some .y16 =>
      writePlanes stride slice height ((intOf (width * 2)).map toSize) [1] (some 0)
  | some .raw16 =>
      (writeRows ((intOf (width * 2)).map toSize) (intOf (stride * 2)) (rowCount height 1)
        (some 0)).1
  | some .implementationDefined => planeRanges 0 (ubwcPlanes info.width info.height)
  | none => []

/-! ## Rows -/

/-- The rows of `n` bytes at `start`, `start + stride` and so on. -/
def rowRanges (start stride : ℤ) (n count : ℕ) : List Range :=
  (List.range count).map fun r => ⟨some (start + stride * (r : ℕ)), some n⟩

/-- **The loop over the rows writes every row at its place.** -/
theorem writeRows_eq (n : ℕ) (stride : ℤ) (count : ℕ) (start : ℤ) :
    writeRows (some n) (some stride) count (some start) =
      (rowRanges start stride n count, some (start + stride * (count : ℕ))) := by
  induction count generalizing start with
  | zero => simp [writeRows, rowRanges]
  | succ count ih =>
      have hnext : advance (some start) (some stride) = some (start + stride) := rfl
      have hrows : rowRanges start stride n (count + 1) =
          ⟨some start, some n⟩ :: rowRanges (start + stride) stride n count := by
        rw [rowRanges, rowRanges, List.range_succ_eq_map, List.map_cons, List.map_map]
        congr 1
        · simp
        · apply List.map_congr_left
          intro r _
          simp only [Function.comp, Range.mk.injEq, Option.some.injEq, and_true]
          push_cast
          ring
      have hend : start + stride + stride * (count : ℕ) =
          start + stride * ((count + 1 : ℕ) : ℤ) := by
        push_cast
        ring
      rw [writeRows, hnext, ih, hrows, hend]

theorem inside_rowRanges {start stride size : ℤ} {n count : ℕ} {r : Range}
    (hr : r ∈ rowRanges start stride n count) (hstart : 0 ≤ start) (hstride : 0 ≤ stride)
    (hsize : start + stride * ((count : ℕ) - 1) + (n : ℕ) ≤ size) : r.Inside size := by
  obtain ⟨i, hi, rfl⟩ := List.mem_map.mp hr
  have hlt : i < count := List.mem_range.mp hi
  have hle : stride * (i : ℕ) ≤ stride * ((count : ℕ) - 1) :=
    mul_le_mul_of_nonneg_left (by omega) hstride
  have hnonneg : 0 ≤ stride * (i : ℕ) := mul_nonneg hstride (by omega)
  exact ⟨_, _, rfl, rfl, .inr ⟨by omega, by omega⟩⟩

theorem fileContent_append (mem : ℤ → UInt8) (l₁ l₂ : List Range) :
    fileContent mem (l₁ ++ l₂) =
      (fileContent mem l₁).bind fun b₁ => (fileContent mem l₂).map fun b₂ => b₁ ++ b₂ := by
  rw [fileContent, fileContent, fileContent, List.mapM_append]
  cases l₁.mapM (Range.bytes mem) <;> cases l₂.mapM (Range.bytes mem) <;> simp

/-- The first `n` bytes of the rows. -/
def rowBytes (mem : ℤ → UInt8) (start stride : ℤ) (n count : ℕ) : List UInt8 :=
  (List.range count).flatMap fun r =>
    (List.range n).map fun i => mem (start + stride * (r : ℕ) + (i : ℕ))

theorem mapM_map_some {α β γ : Type} {f : β → Option γ} {g : α → β} {h : α → γ} {l : List α}
    (hf : ∀ a, f (g a) = some (h a)) : (l.map g).mapM f = some (l.map h) := by
  induction l with
  | nil => rfl
  | cons a l ih => simp [hf, ih]

theorem fileContent_rowRanges (mem : ℤ → UInt8) (start stride : ℤ) (n count : ℕ) :
    fileContent mem (rowRanges start stride n count) =
      some (rowBytes mem start stride n count) := by
  have hrows := mapM_map_some (f := Range.bytes mem)
    (g := fun r : ℕ => ⟨some (start + stride * (r : ℕ)), some n⟩)
    (h := fun r => (List.range n).map fun i => mem (start + stride * (r : ℕ) + (i : ℕ)))
    (l := List.range count) fun r => rfl
  rw [fileContent, rowRanges, hrows, Option.map_some, rowBytes, List.flatMap_def]

theorem length_rowBytes (mem : ℤ → UInt8) (start stride : ℤ) (n count : ℕ) :
    (rowBytes mem start stride n count).length = count * n := by
  simp [rowBytes, List.length_flatMap]

/-! ## A planar image -/

theorem rowCount_one {height : ℤ} : rowCount height 1 = height.toNat := by
  rw [rowCount, Int.tdiv_one]

theorem rowCount_two {height : ℤ} (h : 0 ≤ height) : rowCount height 2 = height.toNat / 2 := by
  rw [rowCount, Int.tdiv_eq_ediv_of_nonneg h]
  omega

theorem intOf_of_fits {z : ℤ} (h : FitsInt z) : intOf z = some z := if_pos h

theorem toSize_of_nonneg {z : ℤ} (h₀ : 0 ≤ z) (h : z < 2 ^ 64) : toSize z = z.toNat := by
  rw [toSize, Int.emod_eq_of_lt h₀ h]

/-- The sizes of a planar buffer: rows of at least the width, room for all of them and for half as
many of chroma. -/
structure PlanarInfo (info : BufferInfo) : Prop where
  width_pos : 1 ≤ info.width.toInt
  width_le : info.width.toInt ≤ info.stride.toInt
  height_pos : 1 ≤ info.height.toInt
  height_le : info.height.toInt ≤ info.slice.toInt
  size_ge : info.stride.toInt * info.slice.toInt * 3 / 2 ≤ info.size.toInt

theorem PlanarInfo.stride_nonneg {info : BufferInfo} (h : PlanarInfo info) :
    0 ≤ info.stride.toInt := by
  have hpos := h.width_pos
  have hle := h.width_le
  omega

theorem PlanarInfo.chroma_le {info : BufferInfo} (h : PlanarInfo info) :
    info.stride.toInt * info.slice.toInt +
        info.stride.toInt * ((info.height.toInt.toNat / 2 : ℕ) : ℤ) ≤ info.size.toInt := by
  have hstride := h.stride_nonneg
  have hhalf : 2 * ((info.height.toInt.toNat / 2 : ℕ) : ℤ) ≤ info.slice.toInt := by
    have := h.height_pos
    have := h.height_le
    omega
  have hmul := mul_le_mul_of_nonneg_left hhalf hstride
  have htwice : info.stride.toInt * (2 * ((info.height.toInt.toNat / 2 : ℕ) : ℤ)) =
      2 * (info.stride.toInt * ((info.height.toInt.toNat / 2 : ℕ) : ℤ)) := by ring
  rw [htwice] at hmul
  have hsize := h.size_ge
  omega

theorem PlanarInfo.padding_eq {info : BufferInfo} (h : PlanarInfo info) :
    planePadding info.stride.toInt info.slice.toInt info.height.toInt =
      some (info.stride.toInt * (info.slice.toInt - info.height.toInt)) := by
  have hslice := info.slice.toInt_lt
  have hsizelt := info.size.toInt_lt
  have hheight := h.height_pos
  have hle := h.height_le
  have hstride := h.stride_nonneg
  have hfits₁ : FitsInt (info.slice.toInt - info.height.toInt) := by
    constructor <;> omega
  have hnonneg : 0 ≤ info.stride.toInt * (info.slice.toInt - info.height.toInt) :=
    mul_nonneg hstride (by omega)
  have hlt : info.stride.toInt * (info.slice.toInt - info.height.toInt) ≤
      info.stride.toInt * info.slice.toInt := mul_le_mul_of_nonneg_left (by omega) hstride
  have hchroma := h.chroma_le
  have hhalf : 0 ≤ info.stride.toInt * ((info.height.toInt.toNat / 2 : ℕ) : ℤ) :=
    mul_nonneg hstride (by omega)
  have hfits₂ : FitsInt (info.stride.toInt * (info.slice.toInt - info.height.toInt)) := by
    constructor <;> omega
  rw [planePadding, intOf_of_fits hfits₁, Option.bind_some, intOf_of_fits hfits₂]

/-- The luma rows, and the chroma rows behind `slice` rows of `stride` bytes. -/
def planarRanges (info : BufferInfo) : List Range :=
  rowRanges 0 info.stride.toInt info.width.toInt.toNat info.height.toInt.toNat ++
    rowRanges (info.stride.toInt * info.slice.toInt) info.stride.toInt info.width.toInt.toNat
      (info.height.toInt.toNat / 2)

/-- The bytes of those rows. -/
def planarBytes (mem : ℤ → UInt8) (info : BufferInfo) : List UInt8 :=
  rowBytes mem 0 info.stride.toInt info.width.toInt.toNat info.height.toInt.toNat ++
    rowBytes mem (info.stride.toInt * info.slice.toInt) info.stride.toInt info.width.toInt.toNat
      (info.height.toInt.toNat / 2)

theorem dumpFrame_eq_planarRanges {info : BufferInfo} {subformat : Implsubformat}
    (hformat : dumpFormat info.format subformat = some .ycbcr420) (h : PlanarInfo info)
    (mem : ℤ → UInt8) : dumpFrame mem info subformat = planarRanges info := by
  have hwidthlt := info.width.toInt_lt
  have hwidth := h.width_pos
  have hheight := h.height_pos
  have hfits : FitsInt (info.width.toInt * 1) := by
    constructor <;> omega
  have hlength : (intOf (info.width.toInt * 1)).map toSize = some info.width.toInt.toNat := by
    rw [intOf_of_fits hfits, Option.map_some, mul_one, toSize_of_nonneg (by omega) (by omega)]
  have hcount : ((info.height.toInt.toNat : ℕ) : ℤ) = info.height.toInt := by omega
  have hchroma : advance (some (info.stride.toInt * info.height.toInt))
      (some (info.stride.toInt * (info.slice.toInt - info.height.toInt))) =
        some (info.stride.toInt * info.slice.toInt) := by
    rw [advance, Option.bind_some, Option.map_some]
    congr 1
    ring
  rw [dumpFrame, hformat]
  simp only [writePlanes, hlength, rowCount_one, rowCount_two (show 0 ≤ info.height.toInt by omega),
    writeRows_eq, h.padding_eq, zero_add, hcount, hchroma, planarRanges, List.append_nil]

theorem inside_planarRanges {info : BufferInfo} (h : PlanarInfo info) :
    ∀ r ∈ planarRanges info, r.Inside info.size.toInt := by
  have hstride := h.stride_nonneg
  have hwidth := h.width_pos
  have hwidthle := h.width_le
  have hheight := h.height_pos
  have hheightle := h.height_le
  have hchroma := h.chroma_le
  intro r hr
  rcases List.mem_append.mp hr with hr | hr
  · refine inside_rowRanges hr le_rfl hstride ?_
    have hhalf : 0 ≤ info.stride.toInt * ((info.height.toInt.toNat / 2 : ℕ) : ℤ) :=
      mul_nonneg hstride (by omega)
    have hrows : info.stride.toInt * (((info.height.toInt.toNat : ℕ) : ℤ) - 1) +
        info.stride.toInt ≤ info.stride.toInt * info.slice.toInt := by
      have hle : ((info.height.toInt.toNat : ℕ) : ℤ) ≤ info.slice.toInt := by omega
      have hmul := mul_le_mul_of_nonneg_left hle hstride
      calc _ = info.stride.toInt * ((info.height.toInt.toNat : ℕ) : ℤ) := by ring
        _ ≤ _ := hmul
    omega
  · refine inside_rowRanges hr (mul_nonneg hstride (by omega)) hstride ?_
    have hlast : info.stride.toInt * (((info.height.toInt.toNat / 2 : ℕ) : ℤ) - 1) +
        info.stride.toInt = info.stride.toInt * ((info.height.toInt.toNat / 2 : ℕ) : ℤ) := by
      ring
    omega

/-- **A planar dump is exact**: the file holds the first `width` bytes of the luma rows and of half
as many chroma rows, in order, and all of them are inside of the buffer. -/
theorem dumpFrame_planar {info : BufferInfo} {subformat : Implsubformat}
    (hformat : dumpFormat info.format subformat = some .ycbcr420) (h : PlanarInfo info)
    (mem : ℤ → UInt8) :
    dumpFrame mem info subformat = planarRanges info ∧
      fileContent mem (dumpFrame mem info subformat) = some (planarBytes mem info) ∧
      (∀ r ∈ dumpFrame mem info subformat, r.Inside info.size.toInt) ∧
      (planarBytes mem info).length =
        info.width.toInt.toNat * (info.height.toInt.toNat + info.height.toInt.toNat / 2) := by
  rw [dumpFrame_eq_planarRanges hformat h mem]
  refine ⟨rfl, ?_, inside_planarRanges h, ?_⟩
  · rw [planarRanges, fileContent_append, fileContent_rowRanges, fileContent_rowRanges,
      planarBytes]
    rfl
  · rw [planarBytes, List.length_append, length_rowBytes, length_rowBytes]
    ring

theorem dumpFrame_planar_4x3 :
    let info : BufferInfo := ⟨48, 4, 3, 8, 4, PixelFormat.ycbcr420.value⟩
    dumpFrame (fun _ => 0) info .none = planarRanges info ∧
      fileContent (fun _ => 0) (dumpFrame (fun _ => 0) info .none) =
        some (planarBytes (fun _ => 0) info) ∧
      (∀ r ∈ dumpFrame (fun _ => 0) info .none, r.Inside info.size.toInt) ∧
      (planarBytes (fun _ => 0) info).length =
        info.width.toInt.toNat * (info.height.toInt.toNat + info.height.toInt.toNat / 2) :=
  dumpFrame_planar (by decide) ⟨by decide, by decide, by decide, by decide, by decide⟩ fun _ => 0

/-! ## A compressed image -/

theorem totalLength_planeRanges (data : ℤ) (planes : List YUVFormat) :
    totalLength (planeRanges data planes) =
      some (planes.map fun p => p.planeSize.toNat).sum := by
  induction planes generalizing data with
  | nil => rfl
  | cons p ps ih =>
      have htail := ih (data + (p.planeSize.toNat : ℕ))
      rw [totalLength, Option.map_eq_some_iff] at htail
      obtain ⟨lengths, hlengths, hsum⟩ := htail
      simp [totalLength, planeRanges, hlengths, hsum]

theorem toNat_toUInt32_of_pos {x : Int32} (h : 1 ≤ x.toInt) : x.toUInt32.toNat = x.toInt.toNat := by
  have hle : 0 ≤ x := by
    rw [Int32.le_iff_toInt_le, Int32.toInt_zero]
    omega
  exact Int32.toNat_toUInt32_of_le hle

theorem toInt_shiftRight_one (x : Int32) : (x >>> 1).toInt = x.toInt / 2 := by
  have hone : (1 : Int32).toBitVec.smod 32 = 1#32 := by decide
  show (BitVec.sshiftRight' x.toBitVec ((1 : Int32).toBitVec.smod 32)).toInt = x.toBitVec.toInt / 2
  rw [hone, BitVec.toInt_sshiftRight', Int.shiftRight_eq_div_pow]
  rfl

theorem toNat_half {x : Int32} (h : 1 ≤ x.toInt) :
    (x >>> 1).toUInt32.toNat = x.toInt.toNat / 2 := by
  have hhalf := toInt_shiftRight_one x
  have hle : (0 : Int32) ≤ x >>> 1 := by
    rw [Int32.le_iff_toInt_le, Int32.toInt_zero]
    omega
  have hnat : (x >>> 1).toUInt32.toNat = (x >>> 1).toInt.toNat := Int32.toNat_toUInt32_of_le hle
  omega

/-- The row of the table that belongs to a subformat. -/
def ubwcRow : Implsubformat → Option UBWCYUVTileInfo
  | .ubwcTP10 => some tileTP10
  | .ubwcNV12 => some tileNV12
  | .p010 => some tileP010
  | .none | .yuv420NV12 | .ubwcNV12Flex | .yuv420NV21 | .rawMIPI => none

/-- The pages of a plane in the first row of the table. -/
abbrev tp10Pages (w h : ℕ) : ℕ := pages 3072 64 192 16 w h

/-- The pages of a plane in the row of `UBWCNV12`. -/
abbrev nv12Pages (w h : ℕ) : ℕ := pages 2048 128 128 32 w h

/-- The sizes for which the first row of the table gives the length of the image in its own row. -/
def FirstRowFits (w h : ℕ) : Implsubformat → Prop
  | .ubwcTP10 => True
  | .p010 => w ≤ 128 ∨ (192 < w ∧ w ≤ 256)
  | .ubwcNV12 => tp10Pages w h + tp10Pages w (h / 2) = nv12Pages w h + nv12Pages w (h / 2)
  | .none | .yuv420NV12 | .ubwcNV12Flex | .yuv420NV21 | .rawMIPI => False

theorem imageSize_eq_iff {w h : ℕ} (hh : 1 ≤ h) {subformat : Implsubformat} {t : UBWCYUVTileInfo}
    (hrow : ubwcRow subformat = some t) :
    tileTP10.imageSize w h = t.imageSize w h ↔ FirstRowFits w h subformat := by
  cases subformat with
  | ubwcTP10 =>
      obtain rfl := Option.some.inj hrow
      exact iff_of_true rfl trivial
  | p010 =>
      obtain rfl := Option.some.inj hrow
      exact imageSize_tileTP10_eq_iff hh
  | ubwcNV12 =>
      obtain rfl := Option.some.inj hrow
      rw [UBWCYUVTileInfo.imageSize, UBWCYUVTileInfo.imageSize, planeSize_tileTP10,
        planeSize_tileTP10, planeSize_tileNV12, planeSize_tileNV12, ← Nat.mul_add, ← Nat.mul_add,
        Nat.mul_right_inj (by decide)]
      rfl
  | none | yuv420NV12 | ubwcNV12Flex | yuv420NV21 | rawMIPI => cases hrow

theorem dumpFormat_ubwc {format : UInt32} {subformat : Implsubformat} {t : UBWCYUVTileInfo}
    (hformat : PixelFormat.ofValue format = some .implementationDefined)
    (hrow : ubwcRow subformat = some t) :
    dumpFormat format subformat = some .implementationDefined := by
  rw [dumpFormat, if_neg, hformat]
  rintro ⟨-, rfl | rfl⟩ <;> cases hrow

theorem tp10Pages_lt_iff {w h : ℕ} : tp10Pages w h < 2 ^ 20 ↔ tileTP10.planeSize w h < 2 ^ 32 := by
  rw [planeSize_tileTP10, tp10Pages]
  omega

section Ubwc

variable {info : BufferInfo}

theorem totalLength_ubwcPlanes {subformat : Implsubformat}
    (hformat : dumpFormat info.format subformat = some .implementationDefined)
    (mem : ℤ → UInt8) :
    totalLength (dumpFrame mem info subformat) =
      some ((ubwcPlane tileTP10 info.width.toUInt32 info.height.toUInt32).planeSize.toNat +
        (ubwcPlane tileTP10 info.width.toUInt32
          (info.height >>> 1).toUInt32).planeSize.toNat) := by
  rw [dumpFrame, hformat]
  simp only [totalLength_planeRanges, ubwcPlanes_eq, List.map_cons, List.map_nil, List.sum_cons,
    List.sum_nil, Nat.add_zero]

variable (hw : 1 ≤ info.width.toInt) (hh : 1 ≤ info.height.toInt)

include hw hh

theorem totalLength_of_pages_lt {subformat : Implsubformat}
    (hformat : dumpFormat info.format subformat = some .implementationDefined) (mem : ℤ → UInt8)
    (hpages : tp10Pages info.width.toInt.toNat info.height.toInt.toNat < 2 ^ 20) :
    totalLength (dumpFrame mem info subformat) =
      some (tileTP10.imageSize info.width.toInt.toNat info.height.toInt.toNat) := by
  have hwidth := toNat_toUInt32_of_pos hw
  have hheight := toNat_toUInt32_of_pos hh
  have hhalf := toNat_half hh
  have hpos : 1 ≤ info.width.toUInt32.toNat := by omega
  have hluma := tp10Pages_lt_iff.mp hpages
  have hchroma : tileTP10.planeSize info.width.toInt.toNat (info.height.toInt.toNat / 2) < 2 ^ 32 :=
    lt_of_le_of_lt (planeSize_half_le info.width.toInt.toNat info.height.toInt.toNat) hluma
  rw [← hwidth, ← hheight] at hluma
  rw [← hwidth, ← hhalf] at hchroma
  rw [totalLength_ubwcPlanes hformat mem, toNat_planeSize_of_lt hpos hluma,
    toNat_planeSize_of_lt hpos hchroma, hwidth, hheight, hhalf]
  rfl

/-- A larger image is written in fewer bytes than the first row asks for. -/
theorem totalLength_of_le_pages {subformat : Implsubformat}
    (hformat : dumpFormat info.format subformat = some .implementationDefined) (mem : ℤ → UInt8)
    (hpages : 2 ^ 20 ≤ tp10Pages info.width.toInt.toNat info.height.toInt.toNat) :
    ∃ n < tileTP10.imageSize info.width.toInt.toNat info.height.toInt.toNat,
      totalLength (dumpFrame mem info subformat) = some n := by
  have hwidth := toNat_toUInt32_of_pos hw
  have hhalf := toNat_half hh
  have hpos : 1 ≤ info.width.toUInt32.toNat := by omega
  have hluma : 2 ^ 32 ≤ tileTP10.planeSize info.width.toInt.toNat info.height.toInt.toNat :=
    Nat.le_of_not_lt fun hlt => absurd (tp10Pages_lt_iff.mpr hlt) (Nat.not_lt_of_le hpages)
  have hlt := toNat_planeSize_lt tileTP10 info.width.toUInt32 info.height.toUInt32
  have hle := @toNat_planeSize_le info.width.toUInt32 (info.height >>> 1).toUInt32 hpos
  rw [hwidth, hhalf] at hle
  refine ⟨_, ?_, totalLength_ubwcPlanes hformat mem⟩
  rw [UBWCYUVTileInfo.imageSize]
  omega

/-- **The length of a compressed image**: it is that of the row of its own subformat where the luma
plane fits into a word and the first row gives the same length, and nowhere else but possibly in an
image of `UBWCNV12` whose luma plane does not fit into a word. -/
theorem totalLength_ubwc_iff {subformat : Implsubformat} {t : UBWCYUVTileInfo}
    (hformat : PixelFormat.ofValue info.format = some .implementationDefined)
    (hrow : ubwcRow subformat = some t) (mem : ℤ → UInt8) :
    let w := info.width.toInt.toNat
    let h := info.height.toInt.toNat
    (tp10Pages w h < 2 ^ 20 ∧ FirstRowFits w h subformat →
      totalLength (dumpFrame mem info subformat) = some (t.imageSize w h)) ∧
    (totalLength (dumpFrame mem info subformat) = some (t.imageSize w h) →
      (tp10Pages w h < 2 ^ 20 ∧ FirstRowFits w h subformat) ∨
        (subformat = .ubwcNV12 ∧ 2 ^ 20 ≤ tp10Pages w h)) := by
  intro w h
  have hdump := dumpFormat_ubwc hformat hrow
  have hagree : tileTP10.imageSize w h = t.imageSize w h ↔ FirstRowFits w h subformat :=
    imageSize_eq_iff (by omega) hrow
  constructor
  · rintro ⟨hpages, hfits⟩
    rw [totalLength_of_pages_lt hw hh hdump mem hpages, hagree.mpr hfits]
  · intro htotal
    rcases Nat.lt_or_ge (tp10Pages w h) (2 ^ 20) with hpages | hpages
    · rw [totalLength_of_pages_lt hw hh hdump mem hpages] at htotal
      exact .inl ⟨hpages, hagree.mp (Option.some.inj htotal)⟩
    · -- the file is shorter than the image in the first row, and `P010` is not shorter than that
      obtain ⟨n, hlt, hn⟩ := totalLength_of_le_pages hw hh hdump mem hpages
      obtain rfl : n = t.imageSize w h := Option.some.inj (hn.symm.trans htotal)
      cases subformat with
      | ubwcTP10 =>
          obtain rfl := Option.some.inj hrow
          exact absurd hlt (Nat.lt_irrefl _)
      | p010 =>
          obtain rfl := Option.some.inj hrow
          have hle := Nat.add_le_add (planeSize_tileTP10_le w h) (planeSize_tileTP10_le w (h / 2))
          exact absurd hlt (Nat.not_lt_of_le hle)
      | ubwcNV12 => exact .inr ⟨rfl, hpages⟩
      | none | yuv420NV12 | ubwcNV12Flex | yuv420NV21 | rawMIPI => cases hrow

end Ubwc

/-- A buffer of a compressed image of 1920x1080 pixels. -/
def fullHdInfo : BufferInfo :=
  ⟨0x330000, 1920, 1080, 2048, 1088, PixelFormat.implementationDefined.value⟩

/-- The luma plane takes 685 pages, and the file is the image. -/
theorem totalLength_tp10_fullHd :
    tp10Pages 1920 1080 < 2 ^ 20 ∧ FirstRowFits 1920 1080 .ubwcTP10 ∧
      totalLength (dumpFrame (fun _ => 0) fullHdInfo .ubwcTP10) =
        some (tileTP10.imageSize 1920 1080) := by
  have hpages : tp10Pages 1920 1080 < 2 ^ 20 := by
    decide +kernel
  have hw : 1 ≤ fullHdInfo.width.toInt := by decide
  have hh : 1 ≤ fullHdInfo.height.toInt := by decide
  have hrow : ubwcRow .ubwcTP10 = some tileTP10 := rfl
  have htotal := totalLength_ubwc_iff hw hh (by decide) hrow fun _ => 0
  exact ⟨hpages, trivial, htotal.1 ⟨hpages, trivial⟩⟩

/-- In `P010` that image takes 1538 pages, and 1028 are written. -/
theorem totalLength_p010 :
    ubwcRow .p010 = some tileP010 ∧ tileP010.imageSize 1920 1080 = 4096 * 1538 ∧
      totalLength (dumpFrame (fun _ => 0) fullHdInfo .p010) = some (4096 * 1028) ∧
      totalLength (dumpFrame (fun _ => 0) fullHdInfo .p010) ≠
        some (tileP010.imageSize 1920 1080) := by
  have hlen : totalLength (dumpFrame (fun _ => 0) fullHdInfo .p010) = some (4096 * 1028) := by
    decide +kernel
  have hsize : tileP010.imageSize 1920 1080 = 4096 * 1538 := by
    decide +kernel
  refine ⟨rfl, hsize, hlen, ?_⟩
  rw [hlen, hsize]
  decide

end QCamx
