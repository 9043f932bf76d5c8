import QCamx.Buffer.Allocation
import QCamx.Buffer.DumpFrame

/-!
# Dumps inside the buffer

`allocate_one_ion_buffer` and `dump_frame` lay an image out on their own. The ranges that are
written lie in the buffer for the sizes of `DumpFits`.

* `ionSize`: the size of the buffer as `dump_frame` sees it;
* `inside_rowRanges_iff`: rows are inside if the last one is;
* **`inside_dumpFrame`**: the dump of an allocated buffer is inside of it for those sizes, and for
  no other but possibly those of a compressed image that does not fit into a word;
* `raw16_outside`: a `RAW16` image whose rows are taken twice as far apart as they are.
-/

namespace QCamx

open Align

/-! ## Signed sizes -/

/-- `BufferInfo::size` of a buffer that holds `bufSize` bytes. -/
def ionSize (bufSize : UInt32) : ℤ := (allocLen bufSize).toUInt32.toInt32.toInt

theorem toNat_toUInt32_allocLen (bufSize : UInt32) :
    (allocLen bufSize).toUInt32.toNat = up bufSize.toNat 4096 % 2 ^ 32 := by
  rw [UInt64.toNat_toUInt32, toNat_allocLen, Nat.mod_mod]

theorem ionSize_of_lt (bufSize : UInt32) (h : up bufSize.toNat 4096 < 2 ^ 31) :
    ionSize bufSize = (up bufSize.toNat 4096 : ℕ) := by
  have hlen := toNat_toUInt32_allocLen bufSize
  rw [Nat.mod_eq_of_lt (by omega)] at hlen
  rw [ionSize, toInt_of_lt (by rw [hlen]; exact h), hlen]

/-- A buffer of `2 ^ 31` bytes or more has a negative size. -/
theorem ionSize_of_ge {bufSize : UInt32} (h : 2 ^ 31 ≤ up bufSize.toNat 4096)
    (hne : allocLen bufSize ≠ 0) : ionSize bufSize < 0 := by
  have hlen := toNat_toUInt32_allocLen bufSize
  have hle : up bufSize.toNat 4096 ≤ 2 ^ 32 :=
    up_le_of_dvd (by decide) bufSize.toNat_lt.le (by decide)
  have hlt : up bufSize.toNat 4096 < 2 ^ 32 := by
    refine lt_of_le_of_ne hle fun heq => hne ?_
    apply UInt64.toNat_inj.mp
    rw [toNat_allocLen, heq]
    rfl
  rw [Nat.mod_eq_of_lt hlt] at hlen
  exact toInt_of_ge (by rw [hlen]; exact h)

theorem ionSize_nonneg_iff {bufSize : UInt32} (hne : allocLen bufSize ≠ 0) :
    0 ≤ ionSize bufSize ↔ up bufSize.toNat 4096 < 2 ^ 31 := by
  constructor
  · intro h
    by_contra hge
    exact absurd (ionSize_of_ge (Nat.le_of_not_lt hge) hne) (not_lt_of_ge h)
  · intro h
    rw [ionSize_of_lt bufSize h]
    omega

theorem ionSize_lt (bufSize : UInt32) : ionSize bufSize < 2 ^ 31 := Int32.toInt_lt _

/-! ## Ranges inside -/

theorem inside_iff {o : ℤ} {n : ℕ} {size : ℤ} :
    (⟨some o, some n⟩ : Range).Inside size ↔ n = 0 ∨ (0 ≤ o ∧ o + (n : ℕ) ≤ size) := by
  constructor
  · rintro ⟨o', n', ho, hn, h⟩
    obtain rfl := Option.some.inj ho
    obtain rfl := Option.some.inj hn
    exact h
  · exact fun h => ⟨o, n, rfl, rfl, h⟩

theorem inside_toSize_iff {size : ℤ} (hlt : size < 2 ^ 31) (hge : -2 ^ 31 ≤ size) :
    (⟨some 0, some (toSize size)⟩ : Range).Inside size ↔ 0 ≤ size := by
  rw [inside_iff]
  constructor
  · intro h
    by_contra hneg
    have hmod : size % 2 ^ 64 = size + 2 ^ 64 := by omega
    rw [toSize, hmod] at h
    omega
  · intro h
    rw [toSize_of_nonneg h (by omega)]
    omega

/-- **Rows are inside if the last one is.** -/
theorem inside_rowRanges_iff {stride size : ℤ} {n count : ℕ} (hstride : 0 ≤ stride) (hn : 1 ≤ n)
    (hcount : 1 ≤ count) :
    (∀ r ∈ rowRanges 0 stride n count, r.Inside size) ↔
      stride * ((count : ℕ) - 1) + (n : ℕ) ≤ size := by
  constructor
  · intro h
    have hmem : (⟨some (0 + stride * ((count - 1 : ℕ) : ℤ)), some n⟩ : Range) ∈
        rowRanges 0 stride n count :=
      List.mem_map.mpr ⟨count - 1, List.mem_range.mpr (by omega), rfl⟩
    have hcast : ((count - 1 : ℕ) : ℤ) = (count : ℤ) - 1 := by omega
    rcases inside_iff.mp (h _ hmem) with hzero | ⟨-, hle⟩
    · omega
    · rw [hcast] at hle
      omega
  · intro h r hr
    exact inside_rowRanges hr le_rfl hstride (by omega)

/-! ## The allocated buffer -/

theorem allocateOneIonBuffer_eq_some {ionAlloc : UInt64 → Bool} (hempty : ionAlloc 0 = false)
    {socId width height format : UInt32} {usage : UInt64} {info : BufferInfo}
    (h : allocateOneIonBuffer ionAlloc socId width height format usage = some info) :
    ∃ f, PixelFormat.ofValue format = some f ∧
      allocLen (ionLayout socId width height usage f).bufSize ≠ 0 ∧
      info.size.toInt = ionSize (ionLayout socId width height usage f).bufSize ∧
      info.width = width.toInt32 ∧ info.height = height.toInt32 ∧
      info.stride = (ionLayout socId width height usage f).stride.toInt32 ∧
      info.slice = (ionLayout socId width height usage f).slice.toInt32 ∧
      info.format = format := by
  obtain ⟨l, hl, hinfo⟩ := Option.bind_eq_some_iff.mp h
  obtain ⟨f, hf, rfl⟩ := Option.map_eq_some_iff.mp hl
  refine ⟨f, hf, ?_⟩
  split_ifs at hinfo with halloc
  obtain rfl := Option.some.inj hinfo
  refine ⟨fun hzero => ?_, rfl, rfl, rfl, rfl, rfl, rfl⟩
  rw [hzero, hempty] at halloc
  exact Bool.noConfusion halloc

theorem rowCount_toInt32 {height : UInt32} :
    rowCount height.toInt32.toInt 1 = if height.toNat < 2 ^ 31 then height.toNat else 0 := by
  rw [rowCount_one]
  by_cases hlt : height.toNat < 2 ^ 31
  · rw [if_pos hlt, toInt_of_lt hlt]
    omega
  · rw [if_neg hlt]
    have := toInt_of_ge (Nat.le_of_not_lt hlt)
    omega

/-! ## Rows of two bytes a pixel -/

/-- The length `width * 2` of a row, as `fwrite` gets it. -/
def wideRowLength (width : UInt32) : Option ℕ := (intOf (width.toInt32.toInt * 2)).map toSize

theorem wideRowLength_of_lt {width : UInt32} (h : width.toNat < 2 ^ 30) :
    wideRowLength width = some (2 * width.toNat) := by
  have hint := toInt_of_lt (x := width) (by omega)
  have hfits : FitsInt (width.toInt32.toInt * 2) := by
    rw [hint]
    constructor <;> omega
  rw [wideRowLength, intOf_of_fits hfits, Option.map_some, hint,
    toSize_of_nonneg (by omega) (by omega)]
  congr 1
  omega

theorem lt_of_inside_wideRow {width : UInt32} {o : Option ℤ} {size : ℤ} (hw : 1 ≤ width.toNat)
    (hsize : size < 2 ^ 31) (h : (⟨o, wideRowLength width⟩ : Range).Inside size) :
    width.toNat < 2 ^ 30 := by
  obtain ⟨o', n, -, hn, hin⟩ := h
  obtain ⟨z, hz, rfl⟩ := Option.map_eq_some_iff.mp hn
  have hfits : FitsInt (width.toInt32.toInt * 2) := by
    by_contra hno
    simp [intOf, hno] at hz
  rw [intOf_of_fits hfits] at hz
  obtain rfl := Option.some.inj hz
  rcases Nat.lt_or_ge width.toNat (2 ^ 31) with hlt | hge
  · rw [toInt_of_lt hlt] at hfits
    have := hfits.2
    omega
  · have hneg := toInt_of_ge hge
    have hlow := hfits.1
    have hmod : width.toInt32.toInt * 2 % 2 ^ 64 = width.toInt32.toInt * 2 + 2 ^ 64 := by omega
    rw [toSize, hmod] at hin
    omega

theorem toNat_wideBufSize (width height : UInt32) :
    (IonLayout.onePlane (width * 2) height).bufSize.toNat =
      2 * width.toNat * height.toNat % 2 ^ 32 := by
  have h₂ : (2 : UInt32).toNat = 2 := rfl
  rw [IonLayout.onePlane, UInt32.toNat_mul, UInt32.toNat_mul, h₂, Nat.mod_mul_mod,
    Nat.mul_comm width.toNat 2]

theorem toInt_wideStride {width : UInt32} (h : width.toNat < 2 ^ 30) :
    (width * 2).toInt32.toInt = 2 * (width.toNat : ℤ) := by
  have h₂ : (2 : UInt32).toNat = 2 := rfl
  have hmul : (width * 2).toNat = 2 * width.toNat := by
    rw [UInt32.toNat_mul, h₂, Nat.mod_eq_of_lt (by omega), Nat.mul_comm]
  rw [toInt_of_lt (by omega), hmul]
  push_cast
  rfl

theorem inside_writeRows_iff {w k m : ℕ} (hw : 1 ≤ w) (hw₂ : w < 2 ^ 30) {step : Option ℤ}
    (hstep : step = intOf (2 * (w : ℤ) * k)) {size : ℤ} (hsize : size < 2 ^ 31) :
    (∀ r ∈ (writeRows (some (2 * w)) step (m + 1) (some 0)).1, r.Inside size) ↔
      2 * (w : ℤ) * k * m + 2 * w ≤ size := by
  have hpos : 0 ≤ 2 * (w : ℤ) * k := by positivity
  by_cases hfits : 2 * (w : ℤ) * k < 2 ^ 31
  · have hstep' : step = some (2 * (w : ℤ) * k) := by
      rw [hstep, intOf_of_fits ⟨by omega, hfits⟩]
    rw [hstep', writeRows_eq, inside_rowRanges_iff hpos (by omega) (by omega)]
    push_cast
    rw [add_sub_cancel_right]
  · have hstep' : step = none := by
      rw [hstep, intOf, if_neg fun h => hfits h.2]
    cases m with
    | zero =>
        have hone : (writeRows (some (2 * w)) step (0 + 1) (some 0)).1 =
            [⟨some 0, some (2 * w)⟩] := rfl
        rw [hone, List.forall_mem_singleton, inside_iff]
        push_cast
        simp only [mul_zero, true_and]
        omega
    | succ m =>
        -- the second row starts at an undefined pointer, and would start behind `size`
        have hrow : 2 * (w : ℤ) * k ≤ 2 * (w : ℤ) * k * ((m + 1 : ℕ) : ℤ) :=
          le_mul_of_one_le_right hpos (by omega)
        refine iff_of_false (fun h => ?_) (not_le_of_gt (by linarith))
        have hsecond : (⟨none, some (2 * w)⟩ : Range) ∈
            (writeRows (some (2 * w)) step (m + 1 + 1) (some 0)).1 := by
          simp [writeRows, advance, hstep']
        obtain ⟨o, n, ho, -, -⟩ := h _ hsecond
        cases ho

/-- **Rows of two bytes a pixel at `k` times their length from each other** are inside of the
buffer if there are none, or nothing was cut off and the last one is inside. -/
theorem inside_wideRows_iff {width height : UInt32} (hw : 1 ≤ width.toNat) (hh : 1 ≤ height.toNat)
    {k : ℕ} (hk : k = 1 ∨ k = 2) {step : Option ℤ}
    (hstep : width.toNat < 2 ^ 30 → step = intOf (2 * (width.toNat : ℤ) * k))
    (hne : allocLen (IonLayout.onePlane (width * 2) height).bufSize ≠ 0) :
    (∀ r ∈ (writeRows (wideRowLength width) step (rowCount height.toInt32.toInt 1) (some 0)).1,
        r.Inside (ionSize (IonLayout.onePlane (width * 2) height).bufSize)) ↔
      2 ^ 31 ≤ height.toNat ∨
        (up (2 * width.toNat * height.toNat) 4096 < 2 ^ 31 ∧
          2 * width.toNat * (k * (height.toNat - 1) + 1) ≤
            up (2 * width.toNat * height.toNat) 4096) := by
  have hbuf := toNat_wideBufSize width height
  have hsize := ionSize_lt (IonLayout.onePlane (width * 2) height).bufSize
  have hnonneg := ionSize_nonneg_iff hne
  have heq := ionSize_of_lt (IonLayout.onePlane (width * 2) height).bufSize
  generalize (IonLayout.onePlane (width * 2) height).bufSize = bufSize at *
  rw [rowCount_toInt32]
  rcases Nat.lt_or_ge height.toNat (2 ^ 31) with hlt | hge
  · rw [if_pos hlt]
    obtain ⟨m, hm⟩ : ∃ m, height.toNat = m + 1 := ⟨height.toNat - 1, by omega⟩
    have hrows : 2 * width.toNat * (m + 1) = 2 * (width.toNat * m) + 2 * width.toNat := by ring
    have hlast : 2 * width.toNat * (k * m + 1) =
        k * (2 * (width.toNat * m)) + 2 * width.toNat := by ring
    have hlastInt : 2 * (width.toNat : ℤ) * k * m + 2 * width.toNat =
        ((2 * width.toNat * (k * m + 1) : ℕ) : ℤ) := by
      push_cast
      ring
    have hle : 2 * width.toNat * (m + 1) ≤ 2 * width.toNat * (k * m + 1) := by
      rw [hrows, hlast]
      rcases hk with rfl | rfl <;> omega
    rw [hm] at hbuf ⊢
    rw [Nat.add_sub_cancel]
    have hpage := le_up (2 * width.toNat * (m + 1)) (show 0 < 4096 by decide)
    constructor
    · intro hin
      have hwidth := lt_of_inside_wideRow hw hsize (hin _ List.mem_cons_self)
      rw [wideRowLength_of_lt hwidth,
        inside_writeRows_iff hw hwidth (hstep hwidth) hsize, hlastInt] at hin
      have hup := hnonneg.mp (le_trans (Int.natCast_nonneg _) hin)
      rw [heq hup, Int.ofNat_le] at hin
      have hcut : 2 * width.toNat * (m + 1) % 2 ^ 32 = 2 * width.toNat * (m + 1) :=
        Nat.mod_eq_of_lt (by omega)
      rw [hbuf, hcut] at hup hin
      exact .inr ⟨hup, hin⟩
    · rintro (hge | ⟨hup, hin⟩)
      · omega
      · have hwidth : width.toNat < 2 ^ 30 := by omega
        have hcut : 2 * width.toNat * (m + 1) % 2 ^ 32 = 2 * width.toNat * (m + 1) :=
          Nat.mod_eq_of_lt (by omega)
        rw [wideRowLength_of_lt hwidth,
          inside_writeRows_iff hw hwidth (hstep hwidth) hsize, hlastInt,
          heq (by rw [hbuf, hcut]; exact hup), hbuf, hcut]
        exact_mod_cast hin
  · rw [if_neg (Nat.not_lt_of_le hge)]
    refine iff_of_true (fun r hr => ?_) (.inl hge)
    simp [writeRows] at hr

/-! ## Two planes -/

/-- The sizes of a 4:2:0 image, aligned to `a`, whose dump is inside: there are no rows, or the size
of the buffer is not negative and nothing was cut off, or one row is all that is written. -/
def PlanarFits (a : UInt32 × UInt32) (w h : ℕ) : Prop :=
  2 ^ 31 ≤ h ∨
    (up (3 * (up w a.1.toNat * up h a.2.toNat) % 2 ^ 32 / 2) 4096 < 2 ^ 31 ∧
      (TwoPlanesFit a w h ∨
        (h = 1 ∧ w ≤ up (3 * (up w a.1.toNat * up h a.2.toNat) % 2 ^ 32 / 2) 4096)))

theorem align_eq_of_alloc {a : UInt32 × UInt32} (ha : WordAlignment a) {width height : UInt32}
    (hne : allocLen (IonLayout.twoPlanes (align width a.1) (align height a.2)).bufSize ≠ 0) :
    (align width a.1).toNat = up width.toNat a.1.toNat ∧
      (align height a.2).toNat = up height.toNat a.2.toNat := by
  have hprod : (align width a.1).toNat * (align height a.2).toNat ≠ 0 := by
    intro hzero
    apply hne
    have hbuf := toNat_twoPlanes_bufSize (align width a.1) (align height a.2)
    rw [hzero] at hbuf
    rw [UInt32.toNat_inj.mp (hbuf.trans rfl : _ = (0 : UInt32).toNat)]
    decide
  have hcut : ∀ {x b : UInt32}, 0 < b.toNat → b.toNat ∣ 2 ^ 32 → (align x b).toNat ≠ 0 →
      (align x b).toNat = up x.toNat b.toNat := by
    intro x b hpos hd hnz
    have hle := up_le_of_dvd hpos x.toNat_lt.le hd
    rw [toNat_align x hpos] at hnz ⊢
    rcases Nat.lt_or_eq_of_le hle with hlt | heq
    · exact Nat.mod_eq_of_lt hlt
    · rw [heq, Nat.mod_self] at hnz
      exact absurd rfl hnz
  exact ⟨hcut ha.pos₁ ha.dvd₁ (left_ne_zero_of_mul hprod),
    hcut ha.pos₂ ha.dvd₂ (right_ne_zero_of_mul hprod)⟩

/-- The length `width` of a row, as `fwrite` gets it. -/
def rowLength (width : UInt32) : Option ℕ := (intOf (width.toInt32.toInt * 1)).map toSize

theorem rowLength_eq (width : UInt32) :
    rowLength width = some (toSize width.toInt32.toInt) := by
  have hfits : FitsInt (width.toInt32.toInt * 1) := by
    rw [mul_one]
    exact ⟨Int32.le_toInt _, Int32.toInt_lt _⟩
  rw [rowLength, intOf_of_fits hfits, Option.map_some, mul_one]

theorem rowLength_of_lt {width : UInt32} (h : width.toNat < 2 ^ 31) :
    rowLength width = some width.toNat := by
  have hint := toInt_of_lt h
  rw [rowLength_eq, toSize_of_nonneg (by omega) (by omega)]
  congr 1
  omega

theorem lt_of_inside_row {width : UInt32} {o : Option ℤ} {size : ℤ} (hsize : size < 2 ^ 31)
    (h : (⟨o, rowLength width⟩ : Range).Inside size) : width.toNat < 2 ^ 31 := by
  by_contra hge
  have hneg := toInt_of_ge (Nat.le_of_not_lt hge)
  have hlow := width.toInt32.le_toInt
  have hmod : width.toInt32.toInt % 2 ^ 64 = width.toInt32.toInt + 2 ^ 64 := by omega
  rw [rowLength_eq, toSize, hmod] at h
  obtain ⟨o', n, -, hn, hin⟩ := h
  obtain rfl := Option.some.inj hn
  omega

theorem dumpFrame_eq_nil {height : UInt32} {info : BufferInfo} {subformat : Implsubformat}
    (mem : ℤ → UInt8) (hformat : dumpFormat info.format subformat = some .ycbcr420)
    (hheight : info.height = height.toInt32) (hh : 2 ^ 31 ≤ height.toNat) :
    dumpFrame mem info subformat = [] := by
  have hneg := toInt_of_ge hh
  have hone : rowCount height.toInt32.toInt 1 = 0 := by
    rw [rowCount_one]
    omega
  have htwo : rowCount height.toInt32.toInt 2 = 0 := by
    have hdiv := Int.tdiv_nonneg (show 0 ≤ -height.toInt32.toInt by omega)
      (show (0 : ℤ) ≤ 2 by decide)
    rw [Int.neg_tdiv] at hdiv
    rw [rowCount]
    omega
  rw [dumpFrame, hformat]
  simp only [hheight, writePlanes, hone, htwo, writeRows, List.append_nil]

section Planar

variable {a : UInt32 × UInt32} {width height : UInt32} {info : BufferInfo}
  {subformat : Implsubformat} (mem : ℤ → UInt8)
  (hformat : dumpFormat info.format subformat = some .ycbcr420)
  (hwidth : info.width = width.toInt32) (hheight : info.height = height.toInt32)

include hformat hwidth hheight

theorem dumpFrame_eq_of_lt (hw : width.toNat < 2 ^ 31) {m : ℕ} (hm : height.toNat = m + 1)
    (hh : height.toNat < 2 ^ 31) :
    dumpFrame mem info subformat =
      rowRanges 0 info.stride.toInt width.toNat (m + 1) ++
        writePlanes info.stride.toInt info.slice.toInt (m + 1 : ℕ) (some width.toNat) [2]
          (advance (some (info.stride.toInt * ((m + 1 : ℕ) : ℤ)))
            (planePadding info.stride.toInt info.slice.toInt (m + 1 : ℕ))) := by
  have hrows : rowCount ((m + 1 : ℕ) : ℤ) 1 = m + 1 := by
    rw [rowCount_one]
    omega
  have hlength := rowLength_of_lt hw
  have hint := toInt_of_lt hh
  rw [rowLength] at hlength
  rw [dumpFrame, hformat]
  simp only [hwidth, hheight, hint, hm, writePlanes, hlength, hrows, writeRows_eq, zero_add]

theorem first_row_mem (hh₁ : 1 ≤ height.toNat) (hh : height.toNat < 2 ^ 31) :
    (⟨some 0, rowLength width⟩ : Range) ∈ dumpFrame mem info subformat := by
  obtain ⟨m, hm⟩ : ∃ m, height.toNat = m + 1 := ⟨height.toNat - 1, by omega⟩
  have hint := toInt_of_lt hh
  have hrows : rowCount height.toInt32.toInt 1 = m + 1 := by
    rw [rowCount_one]
    omega
  rw [dumpFrame, hformat]
  simp only [hwidth, hheight, writePlanes, hrows, writeRows]
  exact List.mem_cons_self

end Planar

/-- The first row of chroma starts behind the slice, or at an undefined pointer. -/
theorem chroma_start {stride slice height o : ℤ}
    (h : advance (some (stride * height)) (planePadding stride slice height) = some o) :
    o = stride * slice := by
  obtain ⟨d, hd, hsum⟩ := Option.bind_eq_some_iff.mp h
  obtain rfl := Option.some.inj hd
  obtain ⟨t, ht, rfl⟩ := Option.map_eq_some_iff.mp hsum
  obtain ⟨k, hk, hprod⟩ := Option.bind_eq_some_iff.mp ht
  have hval : ∀ {z v : ℤ}, intOf z = some v → v = z := by
    intro z v hz
    rw [intOf] at hz
    split_ifs at hz
    exact (Option.some.inj hz).symm
  rw [hval hprod, hval hk]
  ring

/-- A range at `p` of at least a byte is not inside of a buffer for `p` bytes of luma that was cut
off. -/
theorem not_inside_of_cut {p w : ℕ} (hw : 1 ≤ w) (hcut : 2 ^ 32 ≤ 3 * p) :
    ¬ (p : ℤ) + (w : ℕ) ≤ (up (3 * p % 2 ^ 32 / 2) 4096 : ℕ) := by
  have hlt := up_lt (3 * p % 2 ^ 32 / 2) (show 0 < 4096 by decide)
  intro hle
  have hmod : 3 * p % 2 ^ 32 = 3 * p - 2 ^ 32 := by omega
  rw [hmod] at hlt hle
  omega

section Planar

variable {a : UInt32 × UInt32} {width height : UInt32} {info : BufferInfo}
  {subformat : Implsubformat} (mem : ℤ → UInt8)
  (hformat : dumpFormat info.format subformat = some .ycbcr420)
  (hwidth : info.width = width.toInt32) (hheight : info.height = height.toInt32)

include hformat hwidth hheight

theorem inside_chroma (hw : width.toNat < 2 ^ 31) (hw₁ : 1 ≤ width.toNat)
    (hh₂ : 2 ≤ height.toNat) (hh : height.toNat < 2 ^ 31)
    (hin : ∀ r ∈ dumpFrame mem info subformat, r.Inside info.size.toInt) :
    0 ≤ info.stride.toInt ∧ 0 ≤ info.stride.toInt * info.slice.toInt ∧
      info.stride.toInt * info.slice.toInt + (width.toNat : ℕ) ≤ info.size.toInt := by
  obtain ⟨m, hm⟩ : ∃ m, height.toNat = m + 1 := ⟨height.toNat - 1, by omega⟩
  rw [dumpFrame_eq_of_lt mem hformat hwidth hheight hw hm hh] at hin
  have hsecond := hin ⟨some (0 + info.stride.toInt * ((1 : ℕ) : ℤ)), some width.toNat⟩
    (List.mem_append_left _ (List.mem_map.mpr ⟨1, List.mem_range.mpr (by omega), rfl⟩))
  obtain ⟨k, hk⟩ : ∃ k, rowCount ((m + 1 : ℕ) : ℤ) 2 = k + 1 := by
    have hcount := rowCount_two (show (0 : ℤ) ≤ ((m + 1 : ℕ) : ℤ) by omega)
    exact ⟨(m + 1) / 2 - 1, by omega⟩
  have hchroma := hin ⟨advance (some (info.stride.toInt * ((m + 1 : ℕ) : ℤ)))
    (planePadding info.stride.toInt info.slice.toInt (m + 1 : ℕ)), some width.toNat⟩ (by
      apply List.mem_append_right
      rw [writePlanes, hk, writeRows]
      exact List.mem_cons_self)
  obtain ⟨o, n, ho, hn, hplace⟩ := hchroma
  obtain rfl := Option.some.inj hn
  obtain rfl := chroma_start ho
  have hstride := inside_iff.mp hsecond
  omega

end Planar

/-- The bytes that are computed for a 4:2:0 image aligned to `a`, in whole pages. -/
def planarLength (a : UInt32 × UInt32) (w h : ℕ) : ℕ :=
  up (3 * (up w a.1.toNat * up h a.2.toNat) % 2 ^ 32 / 2) 4096

/-- The record of an allocated 4:2:0 buffer; what does not fit into an `int` is negative in it. -/
structure PlanarBuffer (a : UInt32 × UInt32) (width height : UInt32) (info : BufferInfo) :
    Prop where
  width_eq : info.width = width.toInt32
  height_eq : info.height = height.toInt32
  stride_of_lt (h : up width.toNat a.1.toNat < 2 ^ 31) :
    info.stride.toInt = (up width.toNat a.1.toNat : ℕ)
  stride_of_ge (h : 2 ^ 31 ≤ up width.toNat a.1.toNat) : info.stride.toInt < 0
  slice_of_lt (h : up height.toNat a.2.toNat < 2 ^ 31) :
    info.slice.toInt = (up height.toNat a.2.toNat : ℕ)
  slice_of_ge (h : 2 ^ 31 ≤ up height.toNat a.2.toNat) : info.slice.toInt < 0
  size_of_lt (h : planarLength a width.toNat height.toNat < 2 ^ 31) :
    info.size.toInt = (planarLength a width.toNat height.toNat : ℕ)
  size_of_ge (h : 2 ^ 31 ≤ planarLength a width.toNat height.toNat) : info.size.toInt < 0

theorem planarBuffer_of_alloc {a : UInt32 × UInt32} (ha : WordAlignment a)
    {width height : UInt32} {info : BufferInfo} (hwidth : info.width = width.toInt32)
    (hheight : info.height = height.toInt32)
    (hstride : info.stride = (align width a.1).toInt32)
    (hslice : info.slice = (align height a.2).toInt32)
    (hsize : info.size.toInt =
      ionSize (IonLayout.twoPlanes (align width a.1) (align height a.2)).bufSize)
    (hne : allocLen (IonLayout.twoPlanes (align width a.1) (align height a.2)).bufSize ≠ 0) :
    PlanarBuffer a width height info := by
  obtain ⟨hs, hsl⟩ := align_eq_of_alloc ha hne
  have hbuf := toNat_twoPlanes_bufSize (align width a.1) (align height a.2)
  have hlt := ionSize_of_lt (IonLayout.twoPlanes (align width a.1) (align height a.2)).bufSize
  have hge := fun h => ionSize_of_ge h hne
  rw [hbuf, hs, hsl, ← hsize] at hlt hge
  refine ⟨hwidth, hheight, fun h => ?_, fun h => ?_, fun h => ?_, fun h => ?_, hlt, hge⟩
  · rw [hstride, toInt_of_lt (by rw [hs]; exact h), hs]
  · rw [hstride]
    exact toInt_of_ge (by rw [hs]; exact h)
  · rw [hslice, toInt_of_lt (by rw [hsl]; exact h), hsl]
  · rw [hslice]
    exact toInt_of_ge (by rw [hsl]; exact h)

section PlanarBuffer

variable {a : UInt32 × UInt32} (ha : WordAlignment a) {width height : UInt32}
  (hw : 1 ≤ width.toNat) (hh : 1 ≤ height.toNat) {info : BufferInfo}
  (hinfo : PlanarBuffer a width height info) {subformat : Implsubformat} (mem : ℤ → UInt8)
  (hformat : dumpFormat info.format subformat = some .ycbcr420)

include hinfo

theorem planarLength_lt (h : 0 ≤ info.size.toInt) :
    planarLength a width.toNat height.toNat < 2 ^ 31 := by
  by_contra hge
  exact absurd (hinfo.size_of_ge (Nat.le_of_not_lt hge)) (not_lt_of_ge h)

include ha hw hh hformat

omit hh in
/-- Two rows or more are inside only if nothing was cut off. -/
theorem twoPlanesFit_of_inside (hwlt : width.toNat < 2 ^ 31) (hh₂ : 2 ≤ height.toNat)
    (hlt : height.toNat < 2 ^ 31)
    (hin : ∀ r ∈ dumpFrame mem info subformat, r.Inside info.size.toInt) :
    TwoPlanesFit a width.toNat height.toNat := by
  obtain ⟨hst, hplace, hlast⟩ :=
    inside_chroma mem hformat hinfo.width_eq hinfo.height_eq hwlt hw hh₂ hlt hin
  have hpos := up_pos ha.pos₁ hw
  have hslt : up width.toNat a.1.toNat < 2 ^ 31 := by
    by_contra hge
    have := hinfo.stride_of_ge (Nat.le_of_not_lt hge)
    omega
  have hsval := hinfo.stride_of_lt hslt
  have hsllt : up height.toNat a.2.toNat < 2 ^ 31 := by
    by_contra hge
    have hneg := hinfo.slice_of_ge (Nat.le_of_not_lt hge)
    have := mul_neg_of_pos_of_neg (show 0 < info.stride.toInt by omega) hneg
    omega
  have hsize := hinfo.size_of_lt (planarLength_lt hinfo (by omega))
  by_contra hfit
  rw [hsval, hinfo.slice_of_lt hsllt, hsize, ← Nat.cast_mul] at hlast
  exact not_inside_of_cut hw (Nat.le_of_not_lt hfit) hlast

theorem inside_of_twoPlanesFit (hlt : height.toNat < 2 ^ 31)
    (hlen : planarLength a width.toNat height.toNat < 2 ^ 31)
    (hfit : TwoPlanesFit a width.toNat height.toNat) :
    ∀ r ∈ dumpFrame mem info subformat, r.Inside info.size.toInt := by
  have hpos₁ := up_pos ha.pos₁ hw
  have hpos₂ := up_pos ha.pos₂ hh
  have hle₁ := le_up width.toNat ha.pos₁
  have hle₂ := le_up height.toNat ha.pos₂
  have hprod₁ := Nat.le_mul_of_pos_right (up width.toNat a.1.toNat) hpos₂
  have hprod₂ := Nat.le_mul_of_pos_left (up height.toNat a.2.toNat) hpos₁
  have hsize := hinfo.size_of_lt hlen
  rw [TwoPlanesFit] at hfit
  rw [planarLength, Nat.mod_eq_of_lt hfit] at hsize
  have hpage := le_up (3 * (up width.toNat a.1.toNat * up height.toNat a.2.toNat) / 2)
    (show 0 < 4096 by decide)
  have hsval := hinfo.stride_of_lt (by omega)
  have hslval := hinfo.slice_of_lt (by omega)
  have hwval : info.width.toInt = (width.toNat : ℕ) := by
    rw [hinfo.width_eq, toInt_of_lt (by omega)]
  have hhval : info.height.toInt = (height.toNat : ℕ) := by
    rw [hinfo.height_eq, toInt_of_lt hlt]
  have hplanar : PlanarInfo info := by
    refine ⟨by omega, by omega, by omega, by omega, ?_⟩
    rw [hsval, hslval, hsize, ← Nat.cast_mul]
    omega
  rw [dumpFrame_eq_planarRanges hformat hplanar mem]
  exact inside_planarRanges hplanar

omit ha hw hh in
theorem inside_of_one_row (hone : height.toNat = 1)
    (hlen : planarLength a width.toNat height.toNat < 2 ^ 31)
    (hle : width.toNat ≤ planarLength a width.toNat height.toNat) :
    ∀ r ∈ dumpFrame mem info subformat, r.Inside info.size.toInt := by
  intro r hr
  have hsize := hinfo.size_of_lt hlen
  have hnone : rowCount ((0 + 1 : ℕ) : ℤ) 2 = 0 := by decide
  rw [dumpFrame_eq_of_lt mem hformat hinfo.width_eq hinfo.height_eq (by omega) (m := 0) hone
    (by omega), writePlanes, hnone, writeRows, writePlanes, List.append_nil,
    List.append_nil] at hr
  have hrow : r = ⟨some (0 + info.stride.toInt * ((0 : ℕ) : ℤ)), some width.toNat⟩ :=
    List.mem_singleton.mp hr
  rw [hrow, inside_iff, hsize]
  omega

/-- **When the dump of a 4:2:0 image is inside of its buffer.** -/
theorem inside_planar_iff :
    (∀ r ∈ dumpFrame mem info subformat, r.Inside info.size.toInt) ↔
      PlanarFits a width.toNat height.toNat := by
  rcases Nat.lt_or_ge height.toNat (2 ^ 31) with hlt | hge
  · constructor
    · intro hin
      have hfirst := hin _ (first_row_mem mem hformat hinfo.width_eq hinfo.height_eq hh hlt)
      have hwlt := lt_of_inside_row (Int32.toInt_lt _) hfirst
      rw [rowLength_of_lt hwlt, inside_iff] at hfirst
      have hlen := planarLength_lt hinfo (by omega)
      have hsize := hinfo.size_of_lt hlen
      refine .inr ⟨hlen, ?_⟩
      rcases Nat.lt_or_ge height.toNat 2 with hone | htwo
      · exact .inr ⟨by omega, by rw [← planarLength]; omega⟩
      · exact .inl (twoPlanesFit_of_inside ha hw hinfo mem hformat hwlt htwo hlt hin)
    · rintro (hge | ⟨hlen, hfit | ⟨hone, hle⟩⟩)
      · omega
      · exact inside_of_twoPlanesFit ha hw hh hinfo mem hformat hlt hlen hfit
      · exact inside_of_one_row hinfo mem hformat hone hlen hle
  · rw [dumpFrame_eq_nil mem hformat hinfo.height_eq hge]
    refine iff_of_true (fun r hr => ?_) (.inl hge)
    exact absurd hr List.not_mem_nil

end PlanarBuffer

/-! ## A whole buffer, and a JPEG -/

theorem inside_whole_iff {bufSize : UInt32} (hne : allocLen bufSize ≠ 0) :
    (∀ r ∈ [(⟨some 0, some (toSize (ionSize bufSize))⟩ : Range)], r.Inside (ionSize bufSize)) ↔
      up bufSize.toNat 4096 < 2 ^ 31 := by
  have hlow : -2 ^ 31 ≤ ionSize bufSize := Int32.le_toInt _
  rw [List.forall_mem_singleton, inside_toSize_iff (ionSize_lt bufSize) hlow,
    ionSize_nonneg_iff hne]

/-- The sizes of a JPEG buffer, and the trailers, whose dump is inside: the length that the trailer
tells, if it is one, and else the whole buffer. -/
def BlobFits (w : ℕ) (trailer : Camera3JPEGBlob) : Prop :=
  if trailer.jpegBlobId = jpegBlobId then
    trailer.jpegBlobSize.toNat = 0 ∨
      (up w 4096 < 2 ^ 31 ∧ trailer.jpegBlobSize.toNat ≤ up w 4096)
  else up w 4096 < 2 ^ 31

theorem inside_blob_iff {width : UInt32} (hne : allocLen width ≠ 0) (trailer : Camera3JPEGBlob) :
    (∀ r ∈ (if trailer.jpegBlobId = jpegBlobId then
          [(⟨some 0, some trailer.jpegBlobSize.toNat⟩ : Range)]
        else [⟨some 0, some (toSize (ionSize width))⟩]), r.Inside (ionSize width)) ↔
      BlobFits width.toNat trailer := by
  have hnonneg := ionSize_nonneg_iff hne
  have heq := ionSize_of_lt width
  rw [BlobFits]
  split_ifs with hid
  · rw [List.forall_mem_singleton, inside_iff]
    apply or_congr_right
    constructor
    · rintro ⟨-, hle⟩
      have hup := hnonneg.mp (by omega)
      rw [heq hup] at hle
      exact ⟨hup, by omega⟩
    · rintro ⟨hup, hle⟩
      rw [heq hup]
      omega
  · exact inside_whole_iff hne

/-! ## A compressed image -/

/-- The sizes of a compressed image, aligned to `a` in its buffer, whose dump is inside: the planes
of the first row of the table fit into a word each and together into the buffer. -/
def UbwcFits (a : UInt32 × UInt32) (w h : ℕ) : Prop :=
  tp10Pages w h < 2 ^ 20 ∧
    up (3 * (up w a.1.toNat * up h a.2.toNat) % 2 ^ 32 / 2) 4096 < 2 ^ 31 ∧
      4096 * (tp10Pages w h + tp10Pages w (h / 2)) ≤
        up (3 * (up w a.1.toNat * up h a.2.toNat) % 2 ^ 32 / 2) 4096

theorem inside_planeRanges_iff {n₀ n₁ : ℕ} (hn : 1 ≤ n₀) {size : ℤ} :
    (∀ r ∈ [(⟨some 0, some n₀⟩ : Range), ⟨some (0 + (n₀ : ℕ)), some n₁⟩], r.Inside size) ↔
      (n₀ : ℤ) + (n₁ : ℕ) ≤ size := by
  rw [List.forall_mem_cons, List.forall_mem_singleton, inside_iff, inside_iff]
  omega

theorem planeSize_pos {w h : ℕ} (hw : 1 ≤ w) (hh : 1 ≤ h) : 1 ≤ tileTP10.planeSize w h := by
  have hcols : 0 < w ⌈/⌉ 192 := by
    rw [Nat.ceilDiv_eq_add_pred_div]
    omega
  have hrows : 0 < h ⌈/⌉ 16 := by
    rw [Nat.ceilDiv_eq_add_pred_div]
    omega
  have hprod := Nat.mul_pos hcols hrows
  rw [planeSize_tileTP10, pages]
  omega

theorem ubwcRanges_eq {width height : UInt32} (hw : 1 ≤ width.toNat) (hh : 1 ≤ height.toNat)
    (hpages : tp10Pages width.toNat height.toNat < 2 ^ 20) :
    planeRanges 0 (ubwcPlanes width.toInt32 height.toInt32) =
      [⟨some 0, some (tileTP10.planeSize width.toNat height.toNat)⟩,
        ⟨some (0 + (tileTP10.planeSize width.toNat height.toNat : ℕ)),
          some (tileTP10.planeSize width.toNat (height.toNat / 2))⟩] := by
  have hluma := tp10Pages_lt_iff.mp hpages
  have hchroma := lt_of_le_of_lt (planeSize_half_le width.toNat height.toNat) hluma
  have hfits := planeFits_of_lt hw hh hluma
  have hint := toInt_of_lt (show height.toNat < 2 ^ 31 by have := hfits.height; omega)
  have hhalf : (height.toInt32 >>> 1).toUInt32.toNat = height.toNat / 2 := by
    have h := toNat_half (show 1 ≤ height.toInt32.toInt by omega)
    omega
  have hid : ∀ x : UInt32, x.toInt32.toUInt32 = x := fun _ => rfl
  have hplane₁ := toNat_planeSize_of_lt hw hluma
  have hplane₂ := @toNat_planeSize_of_lt width (height.toInt32 >>> 1).toUInt32 hw
    (by rw [hhalf]; exact hchroma)
  rw [hhalf] at hplane₂
  rw [ubwcPlanes_eq, planeRanges, planeRanges, planeRanges, hid, hid, hplane₁, hplane₂]

theorem inside_ubwc_iff {a : UInt32 × UInt32} (ha : WordAlignment a) {width height : UInt32}
    (hw : 1 ≤ width.toNat) (hh : 1 ≤ height.toNat)
    (hpages : tp10Pages width.toNat height.toNat < 2 ^ 20)
    (hne : allocLen (IonLayout.twoPlanes (align width a.1) (align height a.2)).bufSize ≠ 0) :
    (∀ r ∈ planeRanges 0 (ubwcPlanes width.toInt32 height.toInt32),
        r.Inside (ionSize (IonLayout.twoPlanes (align width a.1) (align height a.2)).bufSize)) ↔
      UbwcFits a width.toNat height.toNat := by
  obtain ⟨hs, hsl⟩ := align_eq_of_alloc ha hne
  have hbuf := toNat_twoPlanes_bufSize (align width a.1) (align height a.2)
  have hnonneg := ionSize_nonneg_iff hne
  have heq := ionSize_of_lt (IonLayout.twoPlanes (align width a.1) (align height a.2)).bufSize
  rw [hbuf, hs, hsl] at heq hnonneg
  have hpos := planeSize_pos hw hh
  rw [ubwcRanges_eq hw hh hpages, inside_planeRanges_iff hpos, UbwcFits,
    planeSize_tileTP10, planeSize_tileTP10]
  simp only [tp10Pages] at hpages ⊢
  constructor
  · intro hle
    have hup := hnonneg.mp (by omega)
    rw [heq hup] at hle
    exact ⟨hpages, hup, by omega⟩
  · rintro ⟨-, hup, hle⟩
    rw [heq hup]
    omega

/-! ## Every format -/

/-- The sizes and trailers for which the dump of an allocated buffer is inside of it. -/
def DumpFits (socId : UInt32) (usage : UInt64) (subformat : Implsubformat)
    (trailer : Camera3JPEGBlob) (w h : ℕ) : PixelFormat → Prop
  | .y16 => 2 ^ 31 ≤ h ∨ up (2 * w * h) 4096 < 2 ^ 31
  | .raw16 =>
      2 ^ 31 ≤ h ∨
        (up (2 * w * h) 4096 < 2 ^ 31 ∧ 2 * w * (2 * (h - 1) + 1) ≤ up (2 * w * h) 4096)
  | .raw10 => up (up (5 * w % 2 ^ 32 / 4) 16 * h % 2 ^ 32) 4096 < 2 ^ 31
  | .raw12 => up (up (3 * w % 2 ^ 32 / 2) 16 * h % 2 ^ 32) 4096 < 2 ^ 31
  | .blob => BlobFits w trailer
  | .implementationDefined =>
      if subformat = .yuv420NV12 ∨ subformat = .yuv420NV21 then
        PlanarFits (encoderAlignment socId) w h
      else UbwcFits (encoderAlignment socId) w h
  | .ycbcr420 => ∃ a, ycbcr420Alignment socId usage = some a ∧ PlanarFits a w h

/-- Every image but a compressed one whose luma plane does not fit into a word. -/
def DumpDecided (w h : ℕ) (subformat : Implsubformat) (f : PixelFormat) : Prop :=
  f = .implementationDefined ∧ ¬ (subformat = .yuv420NV12 ∨ subformat = .yuv420NV21) →
    tp10Pages w h < 2 ^ 20

theorem dumpFormat_of_ne {format : UInt32} {f : PixelFormat}
    (hf : PixelFormat.ofValue format = some f) (hne : f ≠ .implementationDefined)
    (subformat : Implsubformat) : dumpFormat format subformat = some f := by
  rw [dumpFormat, if_neg, hf]
  rintro ⟨himpl, -⟩
  rw [hf] at himpl
  exact hne (Option.some.inj himpl)

theorem dumpFormat_implementationDefined {format : UInt32}
    (hf : PixelFormat.ofValue format = some .implementationDefined) (subformat : Implsubformat) :
    dumpFormat format subformat =
      if subformat = .yuv420NV12 ∨ subformat = .yuv420NV21 then some .ycbcr420
      else some .implementationDefined := by
  rw [dumpFormat, hf]
  simp

theorem inside_y16_iff {width height : UInt32} (hw : 1 ≤ width.toNat) (hh : 1 ≤ height.toNat)
    (hne : allocLen (IonLayout.onePlane (width * 2) height).bufSize ≠ 0) (slice : ℤ) :
    (∀ r ∈ writePlanes (width * 2).toInt32.toInt slice height.toInt32.toInt (wideRowLength width)
          [1] (some 0),
        r.Inside (ionSize (IonLayout.onePlane (width * 2) height).bufSize)) ↔
      2 ^ 31 ≤ height.toNat ∨ up (2 * width.toNat * height.toNat) 4096 < 2 ^ 31 := by
  have hstep : width.toNat < 2 ^ 30 →
      some (width * 2).toInt32.toInt = intOf (2 * (width.toNat : ℤ) * ((1 : ℕ) : ℤ)) := by
    intro hlt
    rw [toInt_wideStride hlt, Nat.cast_one, mul_one, intOf_of_fits]
    constructor <;> omega
  have hrows : 2 * width.toNat * (1 * (height.toNat - 1) + 1) =
      2 * width.toNat * height.toNat := by
    rw [Nat.one_mul, Nat.sub_add_cancel hh]
  rw [writePlanes, writePlanes, List.append_nil, inside_wideRows_iff hw hh (.inl rfl) hstep hne,
    hrows]
  have hpage := le_up (2 * width.toNat * height.toNat) (show 0 < 4096 by decide)
  simp only [hpage, and_true]

theorem inside_raw16_iff {width height : UInt32} (hw : 1 ≤ width.toNat) (hh : 1 ≤ height.toNat)
    (hne : allocLen (IonLayout.onePlane (width * 2) height).bufSize ≠ 0) :
    (∀ r ∈ (writeRows (wideRowLength width) (intOf ((width * 2).toInt32.toInt * 2))
          (rowCount height.toInt32.toInt 1) (some 0)).1,
        r.Inside (ionSize (IonLayout.onePlane (width * 2) height).bufSize)) ↔
      2 ^ 31 ≤ height.toNat ∨
        (up (2 * width.toNat * height.toNat) 4096 < 2 ^ 31 ∧
          2 * width.toNat * (2 * (height.toNat - 1) + 1) ≤
            up (2 * width.toNat * height.toNat) 4096) := by
  refine inside_wideRows_iff hw hh (.inr rfl) (fun hlt => ?_) hne
  rw [toInt_wideStride hlt]
  rfl

theorem inside_packedRaw_iff (width height : UInt32) {k d : UInt32} (hd : 1 < d.toNat)
    (hne : allocLen (IonLayout.onePlane (align (width * k / d) 16) height).bufSize ≠ 0) :
    (∀ r ∈ [(⟨some 0, some (toSize (ionSize
          (IonLayout.onePlane (align (width * k / d) 16) height).bufSize))⟩ : Range)],
        r.Inside (ionSize (IonLayout.onePlane (align (width * k / d) 16) height).bufSize)) ↔
      up (up (k.toNat * width.toNat % 2 ^ 32 / d.toNat) 16 * height.toNat % 2 ^ 32) 4096 <
        2 ^ 31 := by
  rw [inside_whole_iff hne, IonLayout.onePlane, UInt32.toNat_mul, toNat_rawStride width hd]

/-- **The dump of an allocated buffer is inside of it exactly for the sizes and trailers of
`DumpFits`**, where that is decided. -/
theorem inside_dumpFrame_iff {ionAlloc : UInt64 → Bool} (hempty : ionAlloc 0 = false)
    {socId width height format : UInt32} {usage : UInt64} {info : BufferInfo}
    (halloc : allocateOneIonBuffer ionAlloc socId width height format usage = some info)
    (hw : 1 ≤ width.toNat) (hh : 1 ≤ height.toNat) (subformat : Implsubformat)
    (mem : ℤ → UInt8) {f : PixelFormat} (hf : PixelFormat.ofValue format = some f)
    (hdecided : DumpDecided width.toNat height.toNat subformat f) :
    (∀ r ∈ dumpFrame mem info subformat, r.Inside info.size.toInt) ↔
      DumpFits socId usage subformat (jpegTrailer mem info.size.toInt) width.toNat height.toNat
        f := by
  obtain ⟨f', hf', hne, hsize, hwidth, hheight, hstride, hslice, hformat⟩ :=
    allocateOneIonBuffer_eq_some hempty halloc
  obtain rfl : f' = f := Option.some.inj (hf'.symm.trans hf)
  have hdump : f' ≠ .implementationDefined → dumpFormat info.format subformat = some f' := by
    rw [hformat]
    exact fun hne => dumpFormat_of_ne hf hne subformat
  cases f' with
  | y16 =>
      rw [dumpFrame, hdump (by decide), hwidth, hheight, hstride, hsize]
      exact inside_y16_iff hw hh hne _
  | raw16 =>
      rw [dumpFrame, hdump (by decide), hwidth, hheight, hstride, hsize]
      exact inside_raw16_iff hw hh hne
  | raw10 =>
      rw [dumpFrame, hdump (by decide), hsize]
      exact inside_packedRaw_iff width height (by decide) hne
  | raw12 =>
      rw [dumpFrame, hdump (by decide), hsize]
      exact inside_packedRaw_iff width height (by decide) hne
  | blob =>
      rw [dumpFrame, hdump (by decide), hsize]
      exact inside_blob_iff hne _
  | ycbcr420 =>
      rw [DumpFits]
      cases ha : ycbcr420Alignment socId usage with
      | none =>
          -- a buffer that is aligned to nothing has no bytes, and is not allocated
          rw [ionLayout, ha] at hne
          exact absurd (show allocLen (IonLayout.twoPlanes 0 0).bufSize = 0 by decide) hne
      | some a =>
          have hlayout : ionLayout socId width height usage .ycbcr420 =
              .twoPlanes (align width a.1) (align height a.2) := by
            rw [ionLayout, ha]
          rw [hlayout] at hne hsize hstride hslice
          have hword := wordAlignment_ycbcr420 ha
          have hinfo := planarBuffer_of_alloc hword hwidth hheight hstride hslice hsize hne
          simpa using inside_planar_iff hword hw hh hinfo mem (hdump (by decide))
  | implementationDefined =>
      have ha := wordAlignment_encoderAlignment socId
      have hdump := dumpFormat_implementationDefined hf subformat
      rw [← hformat] at hdump
      rw [DumpFits]
      by_cases hplanar : subformat = .yuv420NV12 ∨ subformat = .yuv420NV21
      · rw [if_pos hplanar] at hdump ⊢
        have hinfo := planarBuffer_of_alloc ha hwidth hheight hstride hslice hsize hne
        exact inside_planar_iff ha hw hh hinfo mem hdump
      · rw [if_neg hplanar] at hdump ⊢
        rw [dumpFrame, hdump, hwidth, hheight, hsize]
        exact inside_ubwc_iff ha hw hh (hdecided ⟨rfl, hplanar⟩) hne

/-- **The dump of an allocated buffer**: it is inside of the buffer for the sizes and trailers of
`DumpFits`, and for no other but possibly those of a compressed image whose luma plane does not fit
into a word. -/
theorem inside_dumpFrame {ionAlloc : UInt64 → Bool} (hempty : ionAlloc 0 = false)
    {socId width height format : UInt32} {usage : UInt64} {info : BufferInfo}
    (halloc : allocateOneIonBuffer ionAlloc socId width height format usage = some info)
    (hw : 1 ≤ width.toNat) (hh : 1 ≤ height.toNat) (subformat : Implsubformat)
    (mem : ℤ → UInt8) {f : PixelFormat} (hf : PixelFormat.ofValue format = some f) :
    let fits := DumpFits socId usage subformat (jpegTrailer mem info.size.toInt) width.toNat
      height.toNat f
    (fits → ∀ r ∈ dumpFrame mem info subformat, r.Inside info.size.toInt) ∧
      ((∀ r ∈ dumpFrame mem info subformat, r.Inside info.size.toInt) →
        fits ∨ ¬ DumpDecided width.toNat height.toNat subformat f) := by
  intro fits
  by_cases hdecided : DumpDecided width.toNat height.toNat subformat f
  · have hiff := inside_dumpFrame_iff hempty halloc hw hh subformat mem hf hdecided
    exact ⟨hiff.mpr, fun hin => .inl (hiff.mp hin)⟩
  · refine ⟨fun hfits => ?_, fun _ => .inr hdecided⟩
    -- the sizes of a compressed image that fit are decided
    have hubwc : f = .implementationDefined ∧
        ¬ (subformat = .yuv420NV12 ∨ subformat = .yuv420NV21) := by
      by_contra hno
      exact hdecided fun h => absurd h hno
    obtain ⟨rfl, hplanar⟩ := hubwc
    simp only [fits, DumpFits, if_neg hplanar] at hfits
    exact absurd (fun _ => hfits.1) hdecided

theorem allocateOneIonBuffer_64x48 :
    allocateOneIonBuffer (fun n => n != 0) 0 64 48 PixelFormat.ycbcr420.value
        usageHwVideoEncoder.toUInt64 =
      some ⟨12288, 64, 48, 128, 64, PixelFormat.ycbcr420.value⟩ := by
  decide +kernel

theorem inside_dumpFrame_64x48 :
    let info : BufferInfo := ⟨12288, 64, 48, 128, 64, PixelFormat.ycbcr420.value⟩
    DumpFits 0 usageHwVideoEncoder.toUInt64 .none (jpegTrailer (fun _ => 0) info.size.toInt) 64 48
        .ycbcr420 ∧
      ∀ r ∈ dumpFrame (fun _ => 0) info .none, r.Inside info.size.toInt := by
  intro info
  have hfits : DumpFits 0 usageHwVideoEncoder.toUInt64 .none
      (jpegTrailer (fun _ => 0) info.size.toInt) 64 48 .ycbcr420 :=
    ⟨(128, 32), by decide +kernel, .inr ⟨by decide, .inl (by unfold TwoPlanesFit; decide)⟩⟩
  exact ⟨hfits, (inside_dumpFrame (by decide) allocateOneIonBuffer_64x48 (by decide) (by decide)
    .none (fun _ => 0) (by decide)).1 hfits⟩

/-- The second row of a `RAW16` image of 2048x2 pixels is taken from behind its buffer. -/
theorem raw16_outside :
    ∃ info, allocateOneIonBuffer (fun n => n != 0) 0 2048 2 PixelFormat.raw16.value 0 =
        some info ∧
      ∃ r ∈ dumpFrame (fun _ => 0) info .none, ¬ r.Inside info.size.toInt := by
  refine ⟨⟨8192, 2048, 2, 4096, 2, PixelFormat.raw16.value⟩, by decide +kernel,
    ⟨some 8192, some 4096⟩, by decide +kernel, ?_⟩
  rw [inside_iff]
  decide

end QCamx
