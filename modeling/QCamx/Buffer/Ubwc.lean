import QCamx.Buffer.Ion
import QCamx.Lib.Significand

/-!
# The planes of a compressed image

The sizes that the UBWC branch of `dump_frame` computes for a plane: metadata for every tile and
the pixels in macro tiles, each in whole pages. The program computes in `uint32_t`, and takes the
two ceilings of `float` quotients; all divisors there are powers of two, so only the conversion to
`float` rounds.

* `supportedUBWCYUVTileInfo`, `ubwcPlane`: the table, and the sizes as computed;
* `UBWCYUVTileInfo.planeSize`: the size of a plane in exact arithmetic;
* **`toNat_planeSize_le`**, **`toNat_planeSize_of_lt`**: a computed size is at most the exact one,
  and equal to it if that is below `2 ^ 32`.
-/

namespace QCamx

open Align

/-- `UBWCYUVTileInfo`. -/
structure UBWCYUVTileInfo where
  widthPixels : UInt32
  widthBytes : UInt32
  height : UInt32
  widthMacroTile : UInt32
  heightMacroTile : UInt32
  bppNumerator : UInt32
  bppDenominator : UInt32
  deriving DecidableEq, Repr

/-- The row of `UBWC_TP10`. -/
def tileTP10 : UBWCYUVTileInfo := ⟨48, 64, 4, 256, 16, 4, 3⟩

/-- The row of `UBWC_NV12-4R`. -/
def tileNV12R4 : UBWCYUVTileInfo := ⟨64, 64, 4, 256, 16, 1, 1⟩

/-- The row of `UBWCNV12`. -/
def tileNV12 : UBWCYUVTileInfo := ⟨32, 32, 8, 128, 32, 1, 1⟩

/-- The row of `UBWC_P010`. -/
def tileP010 : UBWCYUVTileInfo := ⟨32, 64, 4, 256, 16, 2, 1⟩

/-- `SupportedUBWCYUVTileInfo`. -/
def supportedUBWCYUVTileInfo : List UBWCYUVTileInfo := [tileTP10, tileNV12R4, tileNV12, tileP010]

/-- `YUVFormat`. -/
structure YUVFormat where
  width : UInt32
  height : UInt32
  planeStride : UInt32
  sliceHeight : UInt32
  metadataStride : UInt32
  metadataHeight : UInt32
  metadataSize : UInt32
  pixelPlaneSize : UInt32
  planeSize : UInt64
  deriving DecidableEq, Repr

/-- `static_cast<float>` of a `uint32_t`, whose value is always an integer. -/
def toFloat (x : UInt32) : ℕ := Significand.roundTo 24 x.toNat

/-- `static_cast<uint32_t>(ceil(x / d / k))`. -/
def ceilQuotient (x d k : UInt32) : UInt32 := UInt32.ofNat (toFloat x ⌈/⌉ (d.toNat * k.toNat))

/-- One round of the loop over the planes, for the width and height of the plane in pixels. -/
def ubwcPlane (tile : UBWCYUVTileInfo) (width height : UInt32) : YUVFormat :=
  let localWidth := align width tile.widthPixels
  let width := localWidth / tile.bppDenominator * tile.bppNumerator
  let metadataStride := ceilQuotient width tile.widthBytes 64 * 1024
  let metadataSize := align (ceilQuotient height tile.height 16 * metadataStride) 4096
  let planeStride := align width tile.widthMacroTile
  let sliceHeight := align height tile.heightMacroTile
  let pixelPlaneSize := align (planeStride * sliceHeight) 4096
  { width := width
    height := height
    planeStride := planeStride
    sliceHeight := sliceHeight
    metadataStride := metadataStride
    metadataHeight := metadataSize / metadataStride
    metadataSize := metadataSize
    pixelPlaneSize := pixelPlaneSize
    planeSize := (metadataSize + pixelPlaneSize).toUInt64 }

/-! ## Exact sizes -/

namespace UBWCYUVTileInfo

variable (t : UBWCYUVTileInfo) (w h : ℕ)

/-- The bytes of a row of whole tiles. -/
def rowBytes : ℕ := up w t.widthPixels.toNat / t.bppDenominator.toNat * t.bppNumerator.toNat

/-- The bytes of metadata of a plane. -/
def metadataSize : ℕ :=
  up ((h ⌈/⌉ (t.height.toNat * 16)) * ((t.rowBytes w ⌈/⌉ (t.widthBytes.toNat * 64)) * 1024)) 4096

/-- The bytes of pixels of a plane. -/
def pixelPlaneSize : ℕ :=
  up (up (t.rowBytes w) t.widthMacroTile.toNat * up h t.heightMacroTile.toNat) 4096

/-- The bytes of a plane. -/
def planeSize : ℕ := t.metadataSize w h + t.pixelPlaneSize w h

/-- The bytes of an image: the luma plane, and the chroma plane of half the height. -/
def imageSize : ℕ := t.planeSize w h + t.planeSize w (h / 2)

end UBWCYUVTileInfo

theorem rowBytes_tileTP10 (w : ℕ) : tileTP10.rowBytes w = 64 * (w ⌈/⌉ 48) := by
  have h₄₈ : tileTP10.widthPixels.toNat = 48 := rfl
  have h₃ : tileTP10.bppDenominator.toNat = 3 := rfl
  have h₄ : tileTP10.bppNumerator.toNat = 4 := rfl
  rw [UBWCYUVTileInfo.rowBytes, h₄₈, h₃, h₄, up]
  omega

theorem rowBytes_pos {w : ℕ} (hw : 1 ≤ w) : 64 ≤ tileTP10.rowBytes w := by
  have hc : 1 ≤ w ⌈/⌉ 48 := by
    rw [Nat.ceilDiv_eq_add_pred_div]
    omega
  rw [rowBytes_tileTP10]
  omega

/-! ## What is computed for a plane -/

theorem toFloat_eq {x : UInt32} {k : ℕ} (hd : 2 ^ k ∣ x.toNat) (hlt : x.toNat < 2 ^ (24 + k)) :
    toFloat x = x.toNat :=
  Significand.roundTo_eq_self (by decide) hd hlt

theorem toNat_ceilQuotient {x d k : UInt32} (hfloat : toFloat x = x.toNat)
    (hpos : 0 < d.toNat * k.toNat) :
    (ceilQuotient x d k).toNat = x.toNat ⌈/⌉ (d.toNat * k.toNat) := by
  have hle : x.toNat ⌈/⌉ (d.toNat * k.toNat) ≤ x.toNat :=
    (ceilDiv_le_iff_le_mul hpos).mpr (Nat.le_mul_of_pos_left _ hpos)
  rw [ceilQuotient, hfloat, UInt32.toNat_ofNat', Nat.mod_eq_of_lt (lt_of_le_of_lt hle x.toNat_lt)]

theorem toNat_align_of_lt {x a : UInt32} (ha : 0 < a.toNat) (h : up x.toNat a.toNat < 2 ^ 32) :
    (align x a).toNat = up x.toNat a.toNat := by
  rw [toNat_align x ha, Nat.mod_eq_of_lt h]

theorem toNat_mul_of_lt {x y : UInt32} (h : x.toNat * y.toNat < 2 ^ 32) :
    (x * y).toNat = x.toNat * y.toNat := by
  rw [UInt32.toNat_mul, Nat.mod_eq_of_lt h]

/-- The bounds that a plane of less than `2 ^ 32` bytes keeps: no product wraps, and `float` holds
the row and the height. -/
structure PlaneFits (w h : ℕ) : Prop where
  row : tileTP10.rowBytes w ≤ 2 ^ 28
  height : h < 2 ^ 24
  size : tileTP10.planeSize w h < 2 ^ 32

theorem planeFits_of_lt {w h : ℕ} (hw : 1 ≤ w) (hh : 1 ≤ h)
    (hlt : tileTP10.planeSize w h < 2 ^ 32) : PlaneFits w h := by
  have h₂₅₆ : tileTP10.widthMacroTile.toNat = 256 := rfl
  have h₁₆ : tileTP10.heightMacroTile.toNat = 16 := rfl
  have hpage := le_up (up (tileTP10.rowBytes w) 256 * up h 16) (show 0 < 4096 by decide)
  have hprod : up (tileTP10.rowBytes w) 256 * up h 16 < 2 ^ 32 := by
    have hle : tileTP10.pixelPlaneSize w h ≤ tileTP10.planeSize w h := Nat.le_add_left _ _
    rw [UBWCYUVTileInfo.pixelPlaneSize, h₂₅₆, h₁₆] at hle
    omega
  have hrow := le_up (tileTP10.rowBytes w) (show 0 < 256 by decide)
  have hheight := le_up h (show 0 < 16 by decide)
  have hstride : 256 ≤ up (tileTP10.rowBytes w) 256 :=
    Nat.le_of_dvd (up_pos (by decide) (by have := rowBytes_pos hw; omega)) (dvd_up _ _)
  have hslice : 16 ≤ up h 16 := Nat.le_of_dvd (up_pos (by decide) hh) (dvd_up _ _)
  have hle₁ := Nat.mul_le_mul_left (up (tileTP10.rowBytes w) 256) hslice
  have hle₂ := Nat.mul_le_mul_right (up h 16) hstride
  exact ⟨by omega, by omega, hlt⟩

section Plane

variable {width height : UInt32} (hfits : PlaneFits width.toNat height.toNat)

include hfits

theorem toNat_width_ubwcPlane :
    (ubwcPlane tileTP10 width height).width.toNat = tileTP10.rowBytes width.toNat := by
  have h₄₈ : tileTP10.widthPixels.toNat = 48 := rfl
  have h₃ : tileTP10.bppDenominator.toNat = 3 := rfl
  have h₄ : tileTP10.bppNumerator.toNat = 4 := rfl
  have hrow := hfits.row
  have hup : up width.toNat 48 = 48 * (width.toNat ⌈/⌉ 48) := Nat.mul_comm _ _
  rw [rowBytes_tileTP10] at *
  have halign : (align width tileTP10.widthPixels).toNat = 48 * (width.toNat ⌈/⌉ 48) := by
    rw [toNat_align_of_lt (by decide) (by rw [h₄₈]; omega), h₄₈, hup]
  simp only [ubwcPlane]
  rw [UInt32.toNat_mul, UInt32.toNat_div, halign, h₃, h₄]
  omega

theorem toNat_metadataStride_ubwcPlane :
    (ubwcPlane tileTP10 width height).metadataStride.toNat =
      (tileTP10.rowBytes width.toNat ⌈/⌉ 4096) * 1024 := by
  have h₆₄ : tileTP10.widthBytes.toNat * (64 : UInt32).toNat = 4096 := rfl
  have h₁₀₂₄ : (1024 : UInt32).toNat = 1024 := rfl
  have hrow := hfits.row
  have hwidth := toNat_width_ubwcPlane hfits
  have hfloat : toFloat (ubwcPlane tileTP10 width height).width =
      (ubwcPlane tileTP10 width height).width.toNat := by
    apply toFloat_eq (k := 6)
    · rw [hwidth, rowBytes_tileTP10]
      exact Dvd.intro _ rfl
    · rw [hwidth]
      omega
  have hquot := toNat_ceilQuotient (d := tileTP10.widthBytes) (k := 64) hfloat (by decide)
  rw [hwidth, h₆₄] at hquot
  have hceil : tileTP10.rowBytes width.toNat ⌈/⌉ 4096 ≤ 2 ^ 16 :=
    (ceilDiv_le_iff_le_mul (by decide)).mpr (by omega)
  have hstride : (ubwcPlane tileTP10 width height).metadataStride =
      ceilQuotient (ubwcPlane tileTP10 width height).width tileTP10.widthBytes 64 * 1024 := rfl
  rw [hstride, toNat_mul_of_lt (by rw [hquot, h₁₀₂₄]; omega), hquot, h₁₀₂₄]

theorem toNat_metadataSize_ubwcPlane :
    (ubwcPlane tileTP10 width height).metadataSize.toNat =
      tileTP10.metadataSize width.toNat height.toNat := by
  have h₆₄ : tileTP10.height.toNat * (16 : UInt32).toNat = 64 := rfl
  have h₄₀₉₆ : (4096 : UInt32).toNat = 4096 := rfl
  have hstride := toNat_metadataStride_ubwcPlane hfits
  have hquot : (ceilQuotient height tileTP10.height 16).toNat = height.toNat ⌈/⌉ 64 :=
    toNat_ceilQuotient (toFloat_eq (k := 0) (Nat.one_dvd _) hfits.height) (by decide)
  have hmeta : tileTP10.metadataSize width.toNat height.toNat =
      up (height.toNat ⌈/⌉ 64 * ((tileTP10.rowBytes width.toNat ⌈/⌉ 4096) * 1024)) 4096 := rfl
  have hle : tileTP10.metadataSize width.toNat height.toNat ≤
      tileTP10.planeSize width.toNat height.toNat := Nat.le_add_right _ _
  have hsize := hfits.size
  have hpage := le_up (height.toNat ⌈/⌉ 64 * ((tileTP10.rowBytes width.toNat ⌈/⌉ 4096) * 1024))
    (show 0 < 4096 by decide)
  have hmul := toNat_mul_of_lt (x := ceilQuotient height tileTP10.height 16)
    (y := (ubwcPlane tileTP10 width height).metadataStride) (by rw [hquot, hstride]; omega)
  rw [hquot, hstride] at hmul
  have hdef : (ubwcPlane tileTP10 width height).metadataSize =
      align (ceilQuotient height tileTP10.height 16 *
        (ubwcPlane tileTP10 width height).metadataStride) 4096 := rfl
  rw [hdef, toNat_align_of_lt (by decide) (by rw [hmul, h₄₀₉₆]; omega), hmul, h₄₀₉₆, hmeta]

theorem toNat_pixelPlaneSize_ubwcPlane :
    (ubwcPlane tileTP10 width height).pixelPlaneSize.toNat =
      tileTP10.pixelPlaneSize width.toNat height.toNat := by
  have h₂₅₆ : tileTP10.widthMacroTile.toNat = 256 := rfl
  have h₁₆ : tileTP10.heightMacroTile.toNat = 16 := rfl
  have h₄₀₉₆ : (4096 : UInt32).toNat = 4096 := rfl
  have hrow := hfits.row
  have hheight := hfits.height
  have hwidth := toNat_width_ubwcPlane hfits
  have hup₁ := up_lt (tileTP10.rowBytes width.toNat) (show 0 < 256 by decide)
  have hup₂ := up_lt height.toNat (show 0 < 16 by decide)
  have hstride : (ubwcPlane tileTP10 width height).planeStride.toNat =
      up (tileTP10.rowBytes width.toNat) 256 := by
    have hdef : (ubwcPlane tileTP10 width height).planeStride =
        align (ubwcPlane tileTP10 width height).width tileTP10.widthMacroTile := rfl
    rw [hdef, toNat_align_of_lt (by decide) (by rw [hwidth, h₂₅₆]; omega), hwidth, h₂₅₆]
  have hslice : (ubwcPlane tileTP10 width height).sliceHeight.toNat = up height.toNat 16 := by
    have hdef : (ubwcPlane tileTP10 width height).sliceHeight =
        align height tileTP10.heightMacroTile := rfl
    rw [hdef, toNat_align_of_lt (by decide) (by rw [h₁₆]; omega), h₁₆]
  have hpix : tileTP10.pixelPlaneSize width.toNat height.toNat =
      up (up (tileTP10.rowBytes width.toNat) 256 * up height.toNat 16) 4096 := rfl
  have hle : tileTP10.pixelPlaneSize width.toNat height.toNat ≤
      tileTP10.planeSize width.toNat height.toNat := Nat.le_add_left _ _
  have hsize := hfits.size
  have hpage := le_up (up (tileTP10.rowBytes width.toNat) 256 * up height.toNat 16)
    (show 0 < 4096 by decide)
  have hmul := toNat_mul_of_lt (x := (ubwcPlane tileTP10 width height).planeStride)
    (y := (ubwcPlane tileTP10 width height).sliceHeight) (by rw [hstride, hslice]; omega)
  rw [hstride, hslice] at hmul
  have hdef : (ubwcPlane tileTP10 width height).pixelPlaneSize =
      align ((ubwcPlane tileTP10 width height).planeStride *
        (ubwcPlane tileTP10 width height).sliceHeight) 4096 := rfl
  rw [hdef, toNat_align_of_lt (by decide) (by rw [hmul, h₄₀₉₆]; omega), hmul, h₄₀₉₆, hpix]

theorem toNat_planeSize_ubwcPlane :
    (ubwcPlane tileTP10 width height).planeSize.toNat =
      tileTP10.planeSize width.toNat height.toNat := by
  have hmeta := toNat_metadataSize_ubwcPlane hfits
  have hpix := toNat_pixelPlaneSize_ubwcPlane hfits
  have hsize := hfits.size
  have hdef : (ubwcPlane tileTP10 width height).planeSize =
      ((ubwcPlane tileTP10 width height).metadataSize +
        (ubwcPlane tileTP10 width height).pixelPlaneSize).toUInt64 := rfl
  rw [UBWCYUVTileInfo.planeSize] at hsize ⊢
  rw [hdef, UInt32.toNat_toUInt64, UInt32.toNat_add, hmeta, hpix, Nat.mod_eq_of_lt hsize]

end Plane

theorem planeSize_zero (t : UBWCYUVTileInfo) (w : ℕ) : t.planeSize w 0 = 0 := by
  simp [UBWCYUVTileInfo.planeSize, UBWCYUVTileInfo.metadataSize, UBWCYUVTileInfo.pixelPlaneSize, up]

theorem align_zero (a : UInt32) : align 0 a = 0 := by
  rw [align, if_pos UInt32.zero_mod]

theorem planeSize_ubwcPlane_zero (width : UInt32) : (ubwcPlane tileTP10 width 0).planeSize = 0 := by
  have hquot : ceilQuotient 0 tileTP10.height 16 = 0 := by decide
  simp [ubwcPlane, hquot, align_zero]

theorem toNat_planeSize_lt (tile : UBWCYUVTileInfo) (width height : UInt32) :
    (ubwcPlane tile width height).planeSize.toNat < 2 ^ 32 := by
  have hdef : (ubwcPlane tile width height).planeSize =
      ((ubwcPlane tile width height).metadataSize +
        (ubwcPlane tile width height).pixelPlaneSize).toUInt64 := rfl
  rw [hdef, UInt32.toNat_toUInt64]
  exact UInt32.toNat_lt _

/-- **A plane that fits into a word is computed exactly.** -/
theorem toNat_planeSize_of_lt {width height : UInt32} (hw : 1 ≤ width.toNat)
    (hlt : tileTP10.planeSize width.toNat height.toNat < 2 ^ 32) :
    (ubwcPlane tileTP10 width height).planeSize.toNat =
      tileTP10.planeSize width.toNat height.toNat := by
  rcases Nat.eq_zero_or_pos height.toNat with hzero | hpos
  · obtain rfl : height = 0 := UInt32.toNat_inj.mp hzero
    rw [planeSize_ubwcPlane_zero, hzero, planeSize_zero]
    rfl
  · exact toNat_planeSize_ubwcPlane (planeFits_of_lt hw hpos hlt)

theorem toNat_planeSize_le {width height : UInt32} (hw : 1 ≤ width.toNat) :
    (ubwcPlane tileTP10 width height).planeSize.toNat ≤
      tileTP10.planeSize width.toNat height.toNat := by
  rcases Nat.lt_or_ge (tileTP10.planeSize width.toNat height.toNat) (2 ^ 32) with hlt | hge
  · exact (toNat_planeSize_of_lt hw hlt).le
  · exact (toNat_planeSize_lt tileTP10 width height).le.trans hge

/-! ## In pages -/

theorem ceilDiv_ceilDiv (n : ℕ) {a b : ℕ} (ha : 0 < a) (hb : 0 < b) :
    (n ⌈/⌉ a) ⌈/⌉ b = n ⌈/⌉ (a * b) := by
  apply eq_of_forall_ge_iff
  intro c
  rw [ceilDiv_le_iff_le_mul hb, ceilDiv_le_iff_le_mul ha, ceilDiv_le_iff_le_mul (Nat.mul_pos ha hb),
    Nat.mul_assoc]

theorem mul_ceilDiv_mul (n : ℕ) {k a : ℕ} (hk : 0 < k) (ha : 0 < a) :
    (k * n) ⌈/⌉ (k * a) = n ⌈/⌉ a := by
  apply eq_of_forall_ge_iff
  intro c
  rw [ceilDiv_le_iff_le_mul (Nat.mul_pos hk ha), ceilDiv_le_iff_le_mul ha, Nat.mul_assoc,
    Nat.mul_le_mul_left_iff hk]

/-- The pages of a plane of `w * h` pixels: four metadata blocks a page, each for `metaWidth` times
`metaHeight` pixels, and one macro tile a page. -/
def pages (metaWidth metaHeight macroWidth macroHeight w h : ℕ) : ℕ :=
  (h ⌈/⌉ metaHeight * (w ⌈/⌉ metaWidth)) ⌈/⌉ 4 + w ⌈/⌉ macroWidth * (h ⌈/⌉ macroHeight)

theorem up_metadata (a b : ℕ) : up (a * (b * 1024)) 4096 = 4096 * ((a * b) ⌈/⌉ 4) := by
  have hmul : a * (b * 1024) = 1024 * (a * b) := by ring
  have hdiv := mul_ceilDiv_mul (a * b) (show 0 < 1024 by decide) (show 0 < 4 by decide)
  rw [up, hmul, Nat.mul_comm, ← hdiv]

theorem up_macroTiles {stride slice a b : ℕ} (hab : a * b = 4096) (ha : a ∣ stride)
    (hb : b ∣ slice) : up (stride * slice) 4096 = 4096 * (stride / a * (slice / b)) := by
  obtain ⟨m, rfl⟩ := ha
  obtain ⟨n, rfl⟩ := hb
  have hpos₁ : 0 < a := Nat.pos_of_ne_zero (by rintro rfl; omega)
  have hpos₂ : 0 < b := Nat.pos_of_ne_zero (by rintro rfl; omega)
  have hmul : a * m * (b * n) = 4096 * (m * n) := by
    rw [← hab]
    ring
  rw [hmul, up_eq_self (by decide) (Dvd.intro _ rfl), Nat.mul_div_cancel_left m hpos₁,
    Nat.mul_div_cancel_left n hpos₂]

theorem up_div (n : ℕ) {a : ℕ} (ha : 0 < a) : up n a / a = n ⌈/⌉ a := by
  rw [up, Nat.mul_div_cancel _ ha]

/-- **The size of a plane in pages**, for a tile `a` pixels and `k` bytes wide whose macro tiles are
four tiles wide and take a page. -/
theorem planeSize_eq_pages {t : UBWCYUVTileInfo} {w k a : ℕ} (hk : 0 < k) (ha : 0 < a)
    (hrow : t.rowBytes w = k * (w ⌈/⌉ a)) (hbytes : t.widthBytes.toNat = k)
    (htiles : t.widthMacroTile.toNat = k * 4)
    (hpage : k * 4 * t.heightMacroTile.toNat = 4096) (h : ℕ) :
    t.planeSize w h =
      4096 * pages (a * 64) (t.height.toNat * 16) (a * 4) t.heightMacroTile.toNat w h := by
  have hpos : 0 < t.heightMacroTile.toNat := Nat.pos_of_ne_zero fun hz => by
    rw [hz] at hpage
    omega
  have hmeta : (k * (w ⌈/⌉ a)) ⌈/⌉ (k * 64) = w ⌈/⌉ (a * 64) := by
    rw [mul_ceilDiv_mul _ hk (by decide), ceilDiv_ceilDiv _ ha (by decide)]
  have htile : (k * (w ⌈/⌉ a)) ⌈/⌉ (k * 4) = w ⌈/⌉ (a * 4) := by
    rw [mul_ceilDiv_mul _ hk (by decide), ceilDiv_ceilDiv _ ha (by decide)]
  rw [UBWCYUVTileInfo.planeSize, UBWCYUVTileInfo.metadataSize, UBWCYUVTileInfo.pixelPlaneSize,
    hbytes, htiles, hrow, hmeta, up_metadata,
    up_macroTiles hpage (dvd_up _ (k * 4)) (dvd_up _ t.heightMacroTile.toNat),
    up_div _ (Nat.mul_pos hk (by decide)), up_div _ hpos, htile, pages, Nat.mul_add]

theorem planeSize_tileTP10 (w h : ℕ) :
    tileTP10.planeSize w h = 4096 * pages 3072 64 192 16 w h :=
  planeSize_eq_pages (by decide) (by decide) (rowBytes_tileTP10 w) rfl rfl rfl h

theorem planeSize_tileP010 (w h : ℕ) :
    tileP010.planeSize w h = 4096 * pages 2048 64 128 16 w h := by
  have hrow : tileP010.rowBytes w = 64 * (w ⌈/⌉ 32) := by
    have hdef : tileP010.rowBytes w = w ⌈/⌉ 32 * 32 / 1 * 2 := rfl
    rw [hdef, Nat.div_one]
    ring
  exact planeSize_eq_pages (by decide) (by decide) hrow rfl rfl rfl h

theorem planeSize_tileNV12 (w h : ℕ) :
    tileNV12.planeSize w h = 4096 * pages 2048 128 128 32 w h := by
  have hrow : tileNV12.rowBytes w = 32 * (w ⌈/⌉ 32) := by
    have hdef : tileNV12.rowBytes w = w ⌈/⌉ 32 * 32 / 1 * 1 := rfl
    rw [hdef, Nat.div_one]
    ring
  exact planeSize_eq_pages (by decide) (by decide) hrow rfl rfl rfl h

theorem ceilDiv_mono {n m : ℕ} (h : n ≤ m) {a : ℕ} (ha : 0 < a) : n ⌈/⌉ a ≤ m ⌈/⌉ a :=
  (ceilDiv_le_iff_le_mul ha).mpr (h.trans ((ceilDiv_le_iff_le_mul ha).mp le_rfl))

theorem planeSize_half_le (w h : ℕ) : tileTP10.planeSize w (h / 2) ≤ tileTP10.planeSize w h := by
  have hle : h / 2 ≤ h := Nat.div_le_self h 2
  rw [planeSize_tileTP10, planeSize_tileTP10]
  apply Nat.mul_le_mul_left
  apply Nat.add_le_add
  · exact ceilDiv_mono (Nat.mul_le_mul_right _ (ceilDiv_mono hle (by decide))) (by decide)
  · exact Nat.mul_le_mul_left _ (ceilDiv_mono hle (by decide))

theorem pages_le {metaWidth metaWidth' macroWidth macroWidth' : ℕ} (metaHeight macroHeight w h : ℕ)
    (hmeta : w ⌈/⌉ metaWidth ≤ w ⌈/⌉ metaWidth') (htiles : w ⌈/⌉ macroWidth ≤ w ⌈/⌉ macroWidth') :
    pages metaWidth metaHeight macroWidth macroHeight w h ≤
      pages metaWidth' metaHeight macroWidth' macroHeight w h := by
  apply Nat.add_le_add
  · exact ceilDiv_mono (Nat.mul_le_mul_left _ hmeta) (by decide)
  · exact Nat.mul_le_mul_right _ htiles

theorem planeSize_tileTP10_le (w h : ℕ) : tileTP10.planeSize w h ≤ tileP010.planeSize w h := by
  rw [planeSize_tileTP10, planeSize_tileP010]
  apply Nat.mul_le_mul_left
  apply pages_le
  · rw [Nat.ceilDiv_eq_add_pred_div, Nat.ceilDiv_eq_add_pred_div]
    omega
  · rw [Nat.ceilDiv_eq_add_pred_div, Nat.ceilDiv_eq_add_pred_div]
    omega

theorem planeSize_tileTP10_eq {w : ℕ} (hw : w ≤ 128 ∨ (192 < w ∧ w ≤ 256)) (h : ℕ) :
    tileTP10.planeSize w h = tileP010.planeSize w h := by
  have hcols : w ⌈/⌉ 192 = w ⌈/⌉ 128 := by
    rw [Nat.ceilDiv_eq_add_pred_div, Nat.ceilDiv_eq_add_pred_div]
    omega
  have hmeta : w ⌈/⌉ 3072 = w ⌈/⌉ 2048 := by
    rw [Nat.ceilDiv_eq_add_pred_div, Nat.ceilDiv_eq_add_pred_div]
    omega
  rw [planeSize_tileTP10, planeSize_tileP010, pages, pages, hcols, hmeta]

/-- A luma plane takes no more only where both formats need as many columns of macro tiles. -/
theorem planeSize_tileTP10_lt {w h : ℕ} (hw : ¬ (w ≤ 128 ∨ (192 < w ∧ w ≤ 256))) (hh : 1 ≤ h) :
    tileTP10.planeSize w h < tileP010.planeSize w h := by
  have hcols : w ⌈/⌉ 192 < w ⌈/⌉ 128 := by
    rw [Nat.ceilDiv_eq_add_pred_div, Nat.ceilDiv_eq_add_pred_div]
    omega
  have hmeta : w ⌈/⌉ 3072 ≤ w ⌈/⌉ 2048 := by
    rw [Nat.ceilDiv_eq_add_pred_div, Nat.ceilDiv_eq_add_pred_div]
    omega
  have hrows : 0 < h ⌈/⌉ 16 := by
    rw [Nat.ceilDiv_eq_add_pred_div]
    omega
  have hle := ceilDiv_mono (Nat.mul_le_mul_left (h ⌈/⌉ 64) hmeta) (show 0 < 4 by decide)
  have hlt := Nat.mul_lt_mul_of_pos_right hcols hrows
  rw [planeSize_tileTP10, planeSize_tileP010, pages, pages]
  omega

/-- **When an image takes the same number of bytes as `TP10` and as `P010`.** -/
theorem imageSize_tileTP10_eq_iff {w h : ℕ} (hh : 1 ≤ h) :
    tileTP10.imageSize w h = tileP010.imageSize w h ↔ w ≤ 128 ∨ (192 < w ∧ w ≤ 256) := by
  constructor
  · intro heq
    by_contra hw
    have hlt := planeSize_tileTP10_lt hw hh
    have hle := planeSize_tileTP10_le w (h / 2)
    rw [UBWCYUVTileInfo.imageSize, UBWCYUVTileInfo.imageSize] at heq
    omega
  · intro hw
    rw [UBWCYUVTileInfo.imageSize, UBWCYUVTileInfo.imageSize, planeSize_tileTP10_eq hw,
      planeSize_tileTP10_eq hw]

end QCamx
