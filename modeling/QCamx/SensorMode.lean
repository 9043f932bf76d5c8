import QCamx.Streams
import QCamx.Lib.RunningMinimum

/-!
# The sensor mode of a high frame rate

The three video cases choose a sensor mode with one loop over the rows of the sensor mode table and
write the chosen row, counted from one, into the operation mode. The loop is a `RunningMinimum.scan`
of the frame rates; the guard after it, `sensor_mode > 0`, also turns row 0 away.

* `SensorModeTable`, `Eligible`, `SelectsMode`: a table, the rows that serve a request, and what
  the operation mode should say about the best of them;
* **`selectOperateMode_eq`**: the function is the scan and the guard;
* **`selectsOptimal_iff`**: the operation mode names the best row exactly when that is not row 0;
* `row_zero_not_selected`: a table whose only row serves the request.
-/

namespace QCamx.Streams

open RunningMinimum

/-! ## The table -/

/-- The entries of a row that are read. -/
structure SensorMode where
  width : ℤ
  height : ℤ
  fps : ℤ

/-- Row `i` of a table whose rows have `modeSize` entries. -/
def sensorModeRow (table : List Int32) (modeSize : ℤ) (i : ℕ) : SensorMode where
  width := (readTable table (2 + i * modeSize)).getD 0
  height := (readTable table (3 + i * modeSize)).getD 0
  fps := (readTable table (4 + i * modeSize)).getD 0

/-- The metadata hold a table of `modeCount` rows of `modeSize` entries each. -/
structure SensorModeTable (table : List Int32) (modeCount modeSize : ℤ) : Prop where
  count_eq : readTable table 0 = some modeCount
  size_eq : readTable table 1 = some modeSize
  count_le : modeCount ≤ 254
  size_ge : 3 ≤ modeSize
  length_ge : 2 + modeCount.toNat * modeSize.toNat ≤ table.length

/-- The size of a row and its frame rate are at least the requested ones. -/
def Fits (width height fps : ℤ) (r : SensorMode) : Prop :=
  width ≤ r.width ∧ height ≤ r.height ∧ fps ≤ r.fps

instance (width height fps : ℤ) (r : SensorMode) : Decidable (Fits width height fps r) :=
  inferInstanceAs (Decidable (_ ∧ _ ∧ _))

/-- A row that serves the request, at a frame rate a sensor can have. -/
def Eligible (width height fps : ℤ) (r : SensorMode) : Prop :=
  Fits width height fps r ∧ r.fps ≤ maxSensorFps

/-- Row `j` is eligible, and the last one of minimal frame rate. -/
def IsBestMode (rows : ℕ → SensorMode) (modeCount : ℕ) (width height fps : ℤ) (j : ℕ) : Prop :=
  IsLastMin (fun i => (rows i).fps) (fun i => Eligible width height fps (rows i)) modeCount j

/-! ## The operation mode -/

/-- Bit 24 of the operation mode: it names a sensor mode. -/
def sensorModeFlag (mode : UInt32) : Bool := mode.toBitVec.getLsbD 24

/-- Bits 16 to 23 of the operation mode. -/
def sensorModeField (mode : UInt32) : ℕ := mode.toNat / 2 ^ 16 % 2 ^ 8

/-- The operation mode `mode'` that came of `mode` names a best row, or is `mode` if there is
none. -/
def SelectsOptimal (rows : ℕ → SensorMode) (modeCount : ℕ) (width height fps : ℤ)
    (mode mode' : UInt32) : Prop :=
  ((∃ i < modeCount, Eligible width height fps (rows i)) →
    ∃ j, IsBestMode rows modeCount width height fps j ∧ sensorModeFlag mode' = true ∧
      sensorModeField mode' = j + 1) ∧
  ((∀ i < modeCount, ¬ Eligible width height fps (rows i)) → mode' = mode)

/-- `QCamxPreviewVideoCase::select_operate_mode`. -/
def previewVideoSelectOperateMode := selectOperateMode

/-- `QCamxHAL3TestVideo::selectOpMode`. -/
def hal3TestVideoSelectOpMode := selectOperateMode

/-- `QCamxVideoOnlyCase::select_operate_mode`. -/
def videoOnlySelectOperateMode := selectOperateMode

/-- The selections of the three video cases. -/
def sensorModeSelections : List (List Int32 → UInt32 → ℤ → ℤ → ℤ → Option UInt32) :=
  [previewVideoSelectOperateMode, hal3TestVideoSelectOpMode, videoOnlySelectOperateMode]

/-! ## The loop is a scan -/

theorem readTable_isSome {table : List Int32} {i : ℤ} (h₀ : 0 ≤ i) (h : i < table.length) :
    (readTable table i).isSome := by
  have hi : i.toNat < table.length := by omega
  simp [readTable, h₀, hi]

/-- **What is read of a row is there.** -/
theorem SensorModeTable.row_isSome {table : List Int32} {modeCount modeSize : ℤ}
    (ht : SensorModeTable table modeCount modeSize) {i : ℕ} (hi : i < modeCount.toNat) {k : ℤ}
    (hk₀ : 2 ≤ k) (hk : k ≤ 4) : (readTable table (k + i * modeSize)).isSome := by
  have hsize := ht.size_ge
  obtain ⟨size, rfl⟩ := Int.eq_ofNat_of_zero_le (show 0 ≤ modeSize by omega)
  have hrow : (i + 1) * size ≤ modeCount.toNat * size := Nat.mul_le_mul_right size hi
  have hlen := ht.length_ge
  have hcast : (i : ℤ) * (size : ℤ) = ((i * size : ℕ) : ℤ) := by push_cast; rfl
  rw [Nat.add_mul, Nat.one_mul] at hrow
  rw [Int.toNat_natCast] at hlen
  rw [hcast]
  apply readTable_isSome <;> omega

/-- The pair of `matched_fps` and `sensor_mode` for what a scan holds. -/
def scanPair (best : ℤ × Option ℕ) : ℤ × ℤ := (best.1, best.2.elim (-1) fun j => (j : ℤ))

theorem selectStep_scanPair {table : List Int32} {modeCount modeSize : ℤ}
    (ht : SensorModeTable table modeCount modeSize) (width height fps : ℤ) {i : ℕ}
    (hi : i < modeCount.toNat) (best : ℤ × Option ℕ) :
    selectStep table modeSize width height fps (scanPair best) i =
      some (scanPair (keep (fun i => (sensorModeRow table modeSize i).fps)
        (fun i => Fits width height fps (sensorModeRow table modeSize i)) best i)) := by
  obtain ⟨sWidth, hw⟩ := Option.isSome_iff_exists.mp
    (ht.row_isSome hi (k := 2) (by omega) (by omega))
  obtain ⟨sHeight, hh⟩ := Option.isSome_iff_exists.mp
    (ht.row_isSome hi (k := 3) (by omega) (by omega))
  obtain ⟨sFps, hf⟩ := Option.isSome_iff_exists.mp
    (ht.row_isSome hi (k := 4) (by omega) (by omega))
  have hrow : sensorModeRow table modeSize i = ⟨sWidth, sHeight, sFps⟩ := by
    simp [sensorModeRow, hw, hh, hf]
  rw [selectStep, hw, hh, hf, keep, hrow]
  by_cases hp : Fits width height fps ⟨sWidth, sHeight, sFps⟩ ∧ sFps ≤ best.1
  · rw [if_pos hp]
    have hp' : width ≤ sWidth ∧ height ≤ sHeight ∧ fps ≤ sFps ∧ sFps ≤ best.1 :=
      ⟨hp.1.1, hp.1.2.1, hp.1.2.2, hp.2⟩
    simp [scanPair, hp']
  · rw [if_neg hp]
    have hp' : ¬ (width ≤ sWidth ∧ height ≤ sHeight ∧ fps ≤ sFps ∧ sFps ≤ best.1) := by
      rintro ⟨h₁, h₂, h₃, h₄⟩
      exact hp ⟨⟨h₁, h₂, h₃⟩, h₄⟩
    simp [scanPair, hp']

theorem foldlM_eq_some_foldl {α β γ : Type} {f : β → α → Option β} {g : γ → β} {k : γ → α → γ}
    (l : List α) (h : ∀ a ∈ l, ∀ c, f (g c) a = some (g (k c a))) (c : γ) :
    l.foldlM f (g c) = some (g (l.foldl k c)) := by
  induction l generalizing c with
  | nil => rfl
  | cons a l ih =>
      rw [List.foldlM_cons, h a List.mem_cons_self c]
      exact ih (fun a' ha' => h a' (List.mem_cons_of_mem a ha')) (k c a)

/-- **`select_operate_mode` is the scan of the frame rates, and the guard.** -/
theorem selectOperateMode_eq {table : List Int32} {modeCount modeSize : ℤ}
    (ht : SensorModeTable table modeCount modeSize) (mode : UInt32) (width height fps : ℤ) :
    selectOperateMode table mode width height fps =
      some (match (scan (fun i => (sensorModeRow table modeSize i).fps)
          (fun i => Fits width height fps (sensorModeRow table modeSize i)) maxSensorFps
            modeCount.toNat).2 with
        | some (j + 1) =>
            mode ||| (UInt32.ofInt ((j + 2 : ℕ) : ℤ) <<< 16) ||| ((1 : UInt32) <<< 24)
        | _ => mode) := by
  have hfold := foldlM_eq_some_foldl (List.range modeCount.toNat)
    (fun i hi => selectStep_scanPair ht width height fps (List.mem_range.mp hi))
    (maxSensorFps, none)
  rw [selectOperateMode, ht.count_eq, ht.size_eq, Option.bind_some, Option.bind_some]
  have hstart : (maxSensorFps, (-1 : ℤ)) = scanPair (maxSensorFps, none) := rfl
  rw [hstart, hfold, Option.map_some, scan]
  generalize List.foldl _ _ _ = best
  obtain ⟨best, j⟩ := best
  cases j with
  | none => rfl
  | some j =>
      cases j with
      | zero => rfl
      | succ j =>
          have hpos : (0 : ℤ) < (scanPair (best, some (j + 1))).2 := by
            simp only [scanPair, Option.elim_some]
            omega
          rw [if_pos hpos]
          simp only [scanPair, Option.elim_some]
          congr 4

/-! ## What the operation mode says -/

theorem sensorMode_encode : ∀ k < 256,
    let mode := constrainedHighSpeedMode ||| (UInt32.ofInt ((k : ℕ) : ℤ) <<< 16) |||
      ((1 : UInt32) <<< 24)
    sensorModeFlag mode = true ∧ sensorModeField mode = k := by
  decide +kernel

theorem sensorModeFlag_constrainedHighSpeed : sensorModeFlag constrainedHighSpeedMode = false := by
  decide

/-- Row 0 serves the request, and every other row that does is faster. -/
def BestIsRowZero (rows : ℕ → SensorMode) (modeCount : ℕ) (width height fps : ℤ) : Prop :=
  0 < modeCount ∧ Eligible width height fps (rows 0) ∧
    ∀ i < modeCount, 0 < i → Eligible width height fps (rows i) → (rows 0).fps < (rows i).fps

theorem isBestMode_zero_iff {rows : ℕ → SensorMode} {modeCount : ℕ} {width height fps : ℤ} :
    IsBestMode rows modeCount width height fps 0 ↔
      BestIsRowZero rows modeCount width height fps := by
  constructor
  · intro h
    exact ⟨h.lt, h.mem, h.lt_of_lt⟩
  · rintro ⟨hlt, hmem, hfaster⟩
    refine ⟨hlt, hmem, fun i hi he => ?_, hfaster⟩
    rcases Nat.eq_zero_or_pos i with rfl | hpos
    · exact le_rfl
    · exact (hfaster i hi hpos he).le

/-- **The operation mode names the best row exactly when that is not row 0**, in each of the three
video cases. -/
theorem selectsOptimal_iff {select : List Int32 → UInt32 → ℤ → ℤ → ℤ → Option UInt32}
    (hselect : select ∈ sensorModeSelections) {table : List Int32} {modeCount modeSize : ℤ}
    (ht : SensorModeTable table modeCount modeSize) (width height fps : ℤ) :
    (∃ mode, select table constrainedHighSpeedMode width height fps = some mode ∧
        SelectsOptimal (sensorModeRow table modeSize) modeCount.toNat width height fps
          constrainedHighSpeedMode mode) ↔
      ¬ BestIsRowZero (sensorModeRow table modeSize) modeCount.toNat width height fps := by
  have hsame : select = selectOperateMode := by
    simpa [sensorModeSelections, previewVideoSelectOperateMode, hal3TestVideoSelectOpMode,
      videoOnlySelectOperateMode] using hselect
  rw [hsame, selectOperateMode_eq ht, ← isBestMode_zero_iff]
  have hcount := ht.count_le
  cases hscan : (scan (fun i => (sensorModeRow table modeSize i).fps)
      (fun i => Fits width height fps (sensorModeRow table modeSize i)) maxSensorFps
        modeCount.toNat).2 with
  | none =>
      have hnone : ∀ i < modeCount.toNat,
          ¬ Eligible width height fps (sensorModeRow table modeSize i) := by
        intro i hi he
        exact scan_eq_none_iff _ _ |>.mp hscan i hi he.1 he.2
      refine iff_of_true ⟨_, rfl, fun he => ?_, fun _ => rfl⟩
        fun hbest => hnone 0 hbest.lt hbest.mem
      obtain ⟨i, hi, he⟩ := he
      exact absurd he (hnone i hi)
  | some j =>
      have hbest : IsBestMode (sensorModeRow table modeSize) modeCount.toNat width height fps j :=
        (scan_eq_some_iff _ _).mp hscan
      cases j with
      | zero =>
          refine iff_of_false ?_ fun hn => hn hbest
          rintro ⟨mode, hmode, hsel, -⟩
          obtain rfl := Option.some.inj hmode
          obtain ⟨j, -, hflag, -⟩ := hsel ⟨0, hbest.lt, hbest.mem⟩
          rw [sensorModeFlag_constrainedHighSpeed] at hflag
          exact Bool.noConfusion hflag
      | succ j =>
          have hj : j + 1 < modeCount.toNat := hbest.lt
          obtain ⟨hflag, hfield⟩ := sensorMode_encode (j + 2) (by omega)
          refine iff_of_true ⟨_, rfl, fun _ => ⟨j + 1, hbest, hflag, hfield⟩, fun hno => ?_⟩ ?_
          · exact absurd hbest.mem (hno (j + 1) hj)
          · intro hzero
            exact absurd (hzero.unique hbest) (by omega)

/-- A table with one row, of 1920x1080 at 60 frames. -/
def oneRowTable : List Int32 := [1, 3, 1920, 1080, 60]

/-- A table of five rows; three serve 1280x720 at 60 frames, of which two are equally slow. -/
def fiveRowTable : List Int32 :=
  [5, 3, 640, 480, 60, 1920, 1080, 120, 1280, 720, 90, 1920, 1080, 90, 4000, 3000, 30]

theorem sensorModeTable_fiveRow : SensorModeTable fiveRowTable 5 3 where
  count_eq := by decide
  size_eq := by decide
  count_le := by decide
  size_ge := by decide
  length_ge := by decide

/-- The last of the two rows is named. -/
theorem selectsOptimal_videoOnly :
    ∃ mode,
      videoOnlySelectOperateMode fiveRowTable constrainedHighSpeedMode 1280 720 60 = some mode ∧
      sensorModeField mode = 4 ∧
      SelectsOptimal (sensorModeRow fiveRowTable 3) 5 1280 720 60 constrainedHighSpeedMode
        mode := by
  have hselect : videoOnlySelectOperateMode ∈ sensorModeSelections := by
    simp [sensorModeSelections]
  obtain ⟨mode, hmode, hoptimal⟩ :=
    (selectsOptimal_iff hselect sensorModeTable_fiveRow 1280 720 60).mpr
      fun h => absurd h.2.1.1.1 (by decide)
  refine ⟨mode, hmode, ?_, hoptimal⟩
  have hvalue : videoOnlySelectOperateMode fiveRowTable constrainedHighSpeedMode 1280 720 60 =
      some (constrainedHighSpeedMode ||| ((4 : UInt32) <<< 16) ||| ((1 : UInt32) <<< 24)) := by
    decide +kernel
  obtain rfl := Option.some.inj (hmode.symm.trans hvalue)
  decide

/-- The only row of the table serves 1280x720 at 60 frames, and is not named. -/
theorem row_zero_not_selected :
    selectOperateMode oneRowTable constrainedHighSpeedMode 1280 720 60 =
        some constrainedHighSpeedMode ∧
      ¬ SelectsOptimal (sensorModeRow oneRowTable 3) 1 1280 720 60 constrainedHighSpeedMode
        constrainedHighSpeedMode := by
  refine ⟨by decide, fun h => ?_⟩
  have hmem : Eligible 1280 720 60 (sensorModeRow oneRowTable 3 0) := by
    refine ⟨?_, ?_⟩ <;> decide
  obtain ⟨j, -, hflag, -⟩ := h.1 ⟨0, by decide, hmem⟩
  exact absurd hflag (by decide)

end QCamx.Streams
