import QCamx.Config.Rounds

/-!
# Crop regions

`zoom` and `cropregion` write the same tag. Both read the active array through a copy of the static
metadata that has been destroyed, so that nothing is certain of what they read. Where the memory
still holds the entry, `zoom` divides by what it has read, so that `0` and the negative values,
except those that divide to `0`, go wrong; `cropregion` checks its region with sums that can
overflow.

* `zoomRegion_inside_iff`, `zoomRegion_centred`: the region of `zoom`;
* `RoundFits`: the values for which a round writes a region inside the active array;
* `roundInside_iff`: these are exactly the rounds that do;
* `ReadsActiveSize`: the rounds that depend on the destroyed copy;
* **`cropsInside_iff`**: when every crop region of a parse is inside the active array, whatever is
  read, and where the entry is read.
-/

namespace QCamx

open CString

/-! ## Zoom -/

/-- The values of `zoom` whose region is inside the active array. -/
def ZoomFits (W H z : Int32) : Prop :=
  1 ≤ z.toInt ∨ z.toInt < 0 ∧ W.toInt < -z.toInt ∧ H.toInt < -z.toInt

/-- The size `W/z` by `H/z`, with margins that differ by one pixel at most. -/
structure Region.Centred (r : Region) (W H z : Int32) : Prop where
  width : r.width.toInt = W.toInt / z.toInt
  height : r.height.toInt = H.toInt / z.toInt
  horizontal : |W.toInt - (r.x.toInt + r.width.toInt) - r.x.toInt| ≤ 1
  vertical : |H.toInt - (r.y.toInt + r.height.toInt) - r.y.toInt| ≤ 1

theorem tdiv_of_pos {a b : ℤ} (ha : 0 ≤ a) (hb : 1 ≤ b) :
    a.tdiv b = a / b ∧ 0 ≤ a / b ∧ a / b ≤ a :=
  ⟨Int.tdiv_eq_ediv_of_nonneg ha, Int.ediv_nonneg ha (by omega), Int.ediv_le_self b ha⟩

theorem tdiv_of_neg {a b : ℤ} (ha : 0 ≤ a) (hb : b < 0) :
    (a < -b → a.tdiv b = 0) ∧ (-b ≤ a → a.tdiv b < 0) := by
  have hneg : a.tdiv b = -(a / -b) := by
    rw [← Int.tdiv_eq_ediv_of_nonneg ha, Int.tdiv_neg, neg_neg]
  rw [hneg]
  refine ⟨fun h => ?_, fun h => ?_⟩
  · rw [Int.ediv_eq_zero_of_lt ha h, neg_zero]
  · have hone : 1 ≤ a / -b := by
      rw [Int.le_ediv_iff_mul_le (by omega)]
      omega
    omega

theorem zoomComputes_of_fits {W H z : Int32} (hW : 0 ≤ W.toInt) (hH : 0 ≤ H.toInt)
    (h : ZoomFits W H z) :
    ZoomComputes W H z ∧ 0 ≤ W.toInt.tdiv z.toInt ∧ W.toInt.tdiv z.toInt ≤ W.toInt ∧
      0 ≤ H.toInt.tdiv z.toInt ∧ H.toInt.tdiv z.toInt ≤ H.toInt := by
  have hz : z ≠ 0 := by
    rintro rfl
    simp only [ZoomFits, Int32.toInt_zero] at h
    omega
  have hbounds : 0 ≤ W.toInt.tdiv z.toInt ∧ W.toInt.tdiv z.toInt ≤ W.toInt ∧
      0 ≤ H.toInt.tdiv z.toInt ∧ H.toInt.tdiv z.toInt ≤ H.toInt := by
    rcases h with hpos | ⟨hneg, hWz, hHz⟩
    · obtain ⟨hw, hw₀, hw₁⟩ := tdiv_of_pos hW hpos
      obtain ⟨hh, hh₀, hh₁⟩ := tdiv_of_pos hH hpos
      rw [hw, hh]
      exact ⟨hw₀, hw₁, hh₀, hh₁⟩
    · rw [(tdiv_of_neg hW hneg).1 hWz, (tdiv_of_neg hH hneg).1 hHz]
      exact ⟨le_rfl, hW, le_rfl, hH⟩
  have hWlt := W.toInt_lt
  have hHlt := H.toInt_lt
  obtain ⟨hw₀, hw₁, hh₀, hh₁⟩ := hbounds
  refine ⟨⟨hz, ?_, ?_, ?_, ?_⟩, hw₀, hw₁, hh₀, hh₁⟩ <;> unfold FitsInt <;> omega

/-- **When the region of `zoom` is inside the active array.** -/
theorem zoomRegion_inside_iff {W H z : Int32} (hW : 0 ≤ W.toInt) (hH : 0 ≤ H.toInt) :
    (∃ r, zoomRegion W H z = .ok r ∧ r.Inside W H) ↔ ZoomFits W H z := by
  constructor
  · rintro ⟨r, hr, hin⟩
    have hcomputes : ZoomComputes W H z := by
      by_contra hnot
      obtain ⟨f, hf, -⟩ := zoomRegion_of_not_computes hnot
      rw [hf] at hr
      cases hr
    obtain ⟨r', hr', hw, hh, -, -⟩ := zoomRegion_of_computes hcomputes
    obtain rfl : r' = r := Except.ok.inj (hr'.symm.trans hr)
    obtain ⟨-, -, hw₀, hh₀, -, -⟩ := hin
    rw [hw] at hw₀
    rw [hh] at hh₀
    by_cases hpos : 1 ≤ z.toInt
    · exact Or.inl hpos
    · have hz : z.toInt ≠ 0 := fun hz => hcomputes.1 (Int32.toInt_inj.mp hz)
      have hneg : z.toInt < 0 := by omega
      refine Or.inr ⟨hneg, ?_, ?_⟩
      · by_contra hle
        exact absurd ((tdiv_of_neg hW hneg).2 (not_lt.mp hle)) (not_lt.mpr hw₀)
      · by_contra hle
        exact absurd ((tdiv_of_neg hH hneg).2 (not_lt.mp hle)) (not_lt.mpr hh₀)
  · intro h
    obtain ⟨hcomputes, hw₀, hw₁, hh₀, hh₁⟩ := zoomComputes_of_fits hW hH h
    obtain ⟨r, hr, hw, hh, hx, hy⟩ := zoomRegion_of_computes hcomputes
    have hhalfw := (tdiv_of_pos (sub_nonneg.mpr hw₁) one_le_two).1
    have hhalfh := (tdiv_of_pos (sub_nonneg.mpr hh₁) one_le_two).1
    rw [hhalfw] at hx
    rw [hhalfh] at hy
    refine ⟨r, hr, ?_⟩
    unfold Region.Inside
    omega

/-- **The region of a positive `zoom` is centred.** -/
theorem zoomRegion_centred {W H z : Int32} (hW : 0 ≤ W.toInt) (hH : 0 ≤ H.toInt)
    (hz : 1 ≤ z.toInt) : ∃ r, zoomRegion W H z = .ok r ∧ r.Centred W H z := by
  obtain ⟨hcomputes, -, hw₁, -, hh₁⟩ := zoomComputes_of_fits hW hH (Or.inl hz)
  obtain ⟨r, hr, hw, hh, hx, hy⟩ := zoomRegion_of_computes hcomputes
  rw [(tdiv_of_pos (sub_nonneg.mpr hw₁) one_le_two).1] at hx
  rw [(tdiv_of_pos (sub_nonneg.mpr hh₁) one_le_two).1] at hy
  refine ⟨r, hr, hw.trans (tdiv_of_pos hW hz).1, hh.trans (tdiv_of_pos hH hz).1, ?_, ?_⟩
  · rw [abs_le]
    omega
  · rw [abs_le]
    omega

/-! ## Rounds -/

variable {F : Type} {m : MetaSetup F} {n : ℕ} {W H : Int32}

/-- An update of the crop region is one to a region inside the active array. -/
def MetaUpdate.CropInside (W H : Int32) (u : MetaUpdate F) : Prop :=
  u.tag = .scalerCropRegion → ∃ r : Region, u = r.update ∧ r.Inside W H

/-- The values for which a round writes a region inside the active array, if it writes one. -/
def RoundFits (W H : Int32) (s : CString) : Prop :=
  match getsubopt metaTokens s with
  | (some .zoom, some value) => ∀ z rest, scanInt value = some (z, rest) → ZoomFits W H z
  | (some .cropRegion, some value) =>
      ∀ x y width height, scanMany scanInt 'x' 4 value = [x, y, width, height] →
        CropComputes W ⟨x, y, width, height⟩
  | _ => True

theorem update_inj {r r' : Region} (h : (r.update : MetaUpdate F) = r'.update) : r = r' := by
  simp only [Region.update, MetaUpdate.mk.injEq, MetaData.int32.injEq, List.cons.injEq, true_and,
    and_true] at h
  exact Region.ext h.1 h.2.1 h.2.2.1 h.2.2.2

theorem cropInside_update_iff {r : Region} :
    (∀ u ∈ [(r.update : MetaUpdate F)], u.CropInside W H) ↔ r.Inside W H := by
  constructor
  · intro h
    obtain ⟨r', hr, hin⟩ := h r.update List.mem_cons_self rfl
    rwa [update_inj hr]
  · intro hin u hu _
    exact ⟨r, List.mem_singleton.mp hu, hin⟩

/-- A round without a fault in the computation of a region, and with a region inside the active
array. -/
def RoundInside (W H : Int32) (result : Except MetaFault (List (MetaUpdate F))) : Prop :=
  match result with
  | .ok updates => ∀ u ∈ updates, u.CropInside W H
  | .error f => ¬ f.OfRegion

theorem roundInside_useVariable {α : Type} {v : Option α} {f : α → List (MetaUpdate F)}
    (h : ∀ a, ∀ u ∈ f a, u.tag ≠ .scalerCropRegion) :
    RoundInside W H ((useVariable v).map f) := by
  cases v with
  | none => exact fun h => absurd h (by decide)
  | some a => exact fun u hu htag => absurd htag (h a u hu)

theorem roundInside_metaOption {opt : MetaOpt} (hzoom : opt ≠ .zoom) (hcrop : opt ≠ .cropRegion)
    (value : CString) : RoundInside W H (metaOption m n opt value) := by
  cases opt with
  | zoom => exact absurd rfl hzoom
  | cropRegion => exact absurd rfl hcrop
  | expPriority | compensationRatio =>
      intro u hu htag
      obtain rfl := List.mem_singleton.mp hu
      cases htag
  | manualWbGains =>
      simp only [metaOption, gainsOption]
      split_ifs
      · intro u hu htag
        obtain rfl := List.mem_singleton.mp hu
        cases htag
      · exact fun h => absurd h (by decide)
  | manualExposureComp =>
      refine roundInside_useVariable fun n u hu => ?_
      split_ifs at hu
      · obtain rfl := List.mem_singleton.mp hu
        exact fun htag => (by cases htag)
      · cases hu
  | manualSensitivity =>
      refine roundInside_useVariable fun n u hu => ?_
      rcases List.mem_cons.mp hu with rfl | hu
      · exact fun htag => (by cases htag)
      · obtain ⟨t, -, rfl⟩ := Option.mem_map.mp (Option.mem_toList.mp hu)
        exact fun htag => (by cases htag)
  | _ =>
      refine roundInside_useVariable fun n u hu htag => ?_
      simp only [List.mem_cons, List.not_mem_nil, or_false] at hu
      first
        | obtain rfl := hu; cases htag
        | obtain rfl | rfl := hu <;> cases htag

theorem roundInside_zoomOption (hread : m.readActiveSize n = .ok (some (W, H)))
    (hW : 0 ≤ W.toInt) (hH : 0 ≤ H.toInt) (value : CString) :
    RoundInside W H (zoomOption m n value) ↔
      ∀ z rest, scanInt value = some (z, rest) → ZoomFits W H z := by
  unfold zoomOption
  rw [hread]
  cases hscan : scanInt value with
  | none =>
      simp only [intVariable, hscan]
      exact ⟨fun _ z rest h => (by cases h), fun _ h => absurd h (by decide)⟩
  | some p =>
      obtain ⟨z, rest⟩ := p
      simp only [intVariable, hscan, Option.map_some, Option.or_none, useVariable, bind,
        Except.bind]
      by_cases hcomputes : ZoomComputes W H z
      · obtain ⟨r, hr, -⟩ := zoomRegion_of_computes hcomputes
        have hinside : r.Inside W H ↔ ZoomFits W H z := by
          rw [← zoomRegion_inside_iff hW hH]
          constructor
          · exact fun hin => ⟨r, hr, hin⟩
          · rintro ⟨r', hr', hin⟩
            obtain rfl : r' = r := Except.ok.inj (hr'.symm.trans hr)
            exact hin
        rw [hr]
        refine cropInside_update_iff.trans (hinside.trans ⟨fun h _ _ => ?_, fun h => h z rest rfl⟩)
        rintro ⟨⟩
        exact h
      · obtain ⟨f, hf, hregion⟩ := zoomRegion_of_not_computes hcomputes
        rw [hf]
        exact iff_of_false (fun h => h hregion) fun h =>
          hcomputes (zoomComputes_of_fits hW hH (h z rest rfl)).1

theorem roundInside_cropRegionOption (hread : m.readActiveSize n = .ok (some (W, H)))
    (value : CString) :
    RoundInside W H (cropRegionOption m n value) ↔
      ∀ x y width height, scanMany scanInt 'x' 4 value = [x, y, width, height] →
        CropComputes W ⟨x, y, width, height⟩ := by
  unfold cropRegionOption
  rw [hread]
  dsimp only
  split
  case h_1 x y width height hscan =>
    have hvalue : (∀ x' y' width' height',
        scanMany scanInt 'x' 4 value = [x', y', width', height'] →
          CropComputes W ⟨x', y', width', height'⟩) ↔ CropComputes W ⟨x, y, width, height⟩ := by
      rw [hscan]
      refine ⟨fun h => h x y width height rfl, fun h _ _ _ _ => ?_⟩
      rintro ⟨⟩
      exact h
    rw [hvalue]
    by_cases hcomputes : CropComputes W ⟨x, y, width, height⟩
    · rw [cropRegion_of_computes H hcomputes]
      refine iff_of_true ?_ hcomputes
      split_ifs with hin
      · exact cropInside_update_iff.mpr hin
      · exact fun u hu => (by cases hu)
    · rw [cropRegion_of_not_computes H hcomputes]
      exact iff_of_false (fun h => h (Or.inr (Or.inl rfl))) hcomputes
  case h_2 hscan =>
    exact iff_of_true (fun h => absurd h (by decide)) fun x y width height h =>
      absurd h (hscan x y width height)

/-- **The rounds whose crop region is inside the active array.** -/
theorem roundInside_iff (hread : m.readActiveSize n = .ok (some (W, H)))
    (hW : 0 ≤ W.toInt) (hH : 0 ≤ H.toInt) (s : CString) :
    RoundInside W H (metaStep m n s) ↔ RoundFits W H s := by
  unfold RoundFits metaStep
  generalize getsubopt metaTokens s = p
  obtain ⟨_ | opt, _ | value⟩ := p
  · exact iff_of_true (fun u hu => (by cases hu)) trivial
  · exact iff_of_true (fun u hu => (by cases hu)) trivial
  · have hfault : RoundInside W H (.error .nullValue : Except MetaFault (List (MetaUpdate F))) :=
      fun h => absurd h (by decide)
    cases opt <;> exact iff_of_true hfault trivial
  · cases opt with
    | zoom => exact roundInside_zoomOption hread hW hH value
    | cropRegion => exact roundInside_cropRegionOption hread value
    | _ => exact iff_of_true (roundInside_metaOption (by decide) (by decide) value) trivial

/-! ## The destroyed copy -/

/-- The same setup with other reads of the destroyed copy. -/
def MetaSetup.reading (m : MetaSetup F) (reads : ℕ → Option (Int32 × Int32)) : MetaSetup F :=
  { m with copyReads := reads }

/-- The handler of a suboption reads the active array: it is `zoom` or `cropregion` with a value. -/
def ReadsActiveSize (s : CString) : Prop :=
  match getsubopt metaTokens s with
  | (some .zoom, some _) | (some .cropRegion, some _) => True
  | _ => False

theorem readActiveSize_reading (hsize : activeSize m.activeArraySize = some (W, H))
    (reads : ℕ → Option (Int32 × Int32)) :
    (m.reading reads).readActiveSize n =
      (reads n).elim (.error .useAfterFree) fun size => .ok (some size) := by
  simp only [MetaSetup.readActiveSize, MetaSetup.reading, hsize]
  cases reads n with
  | none | some => rfl

theorem metaStep_reading {s : CString} (h : ¬ ReadsActiveSize s)
    (reads : ℕ → Option (Int32 × Int32)) :
    metaStep (m.reading reads) n s = metaStep m n s ∧
      (RoundReads (m.reading reads) n s ↔ RoundReads m n s) ∧
      RoundInside W H (metaStep m n s) := by
  unfold ReadsActiveSize at h
  unfold metaStep RoundReads
  generalize getsubopt metaTokens s = p at h
  obtain ⟨_ | opt, _ | value⟩ := p
  · exact ⟨rfl, Iff.rfl, fun u hu => (by cases hu)⟩
  · exact ⟨rfl, Iff.rfl, fun u hu => (by cases hu)⟩
  · exact ⟨rfl, Iff.rfl, fun h => absurd h (by decide)⟩
  · cases opt with
    | zoom | cropRegion => exact absurd trivial h
    | _ => exact ⟨rfl, Iff.rfl, roundInside_metaOption (by decide) (by decide) value⟩

theorem metaStep_of_readsActiveSize {s : CString} (h : ReadsActiveSize s)
    (hread : m.readActiveSize n = .error .useAfterFree) :
    metaStep m n s = .error .useAfterFree := by
  unfold ReadsActiveSize at h
  unfold metaStep
  generalize getsubopt metaTokens s = p at h
  obtain ⟨_ | opt, _ | value⟩ := p
  · exact h.elim
  · exact h.elim
  · cases opt <;> exact h.elim
  · cases opt with
    | zoom => simp only [metaOption, zoomOption, hread]
    | cropRegion => simp only [metaOption, cropRegionOption, hread]
    | _ => exact h.elim

/-! ## The parse -/

/-- A run without a fault in the computation of a region, whose crop regions are inside the active
array. -/
def CropsInside (W H : Int32) (run : List (MetaUpdate F) × Option MetaFault) : Prop :=
  (∀ f ∈ run.2, ¬ f.OfRegion) ∧ ∀ u ∈ run.1, u.CropInside W H

theorem cropsInside_cons (m : MetaSetup F) (s : CString) (ss : List CString) :
    CropsInside W H (metaLoop m (s :: ss)) ↔
      RoundInside W H (metaStep m ss.length s) ∧
        (RoundReads m ss.length s → CropsInside W H (metaLoop m ss)) := by
  rw [metaLoop]
  rcases ends_metaStep m ss.length s with ⟨hreads, -, us, hs⟩ | ⟨-, -, f, hs, hregion⟩ |
    ⟨hreads, f, hs, -⟩
  · rw [hs]
    simp only [hreads, forall_const, CropsInside, RoundInside, List.mem_append, or_imp, forall_and]
    tauto
  · rw [hs]
    exact iff_of_false (fun h => h.1 f rfl hregion) fun h => h.1 hregion
  · rw [hs]
    refine ⟨fun h => ⟨h.1 f rfl, fun h => absurd h hreads⟩, fun h => ⟨?_, fun u hu => ?_⟩⟩
    · rintro _ ⟨⟩
      exact h.1
    · cases hu

/-- **Where the reads give the active array**, the values have to fit. -/
theorem cropsInside_metaLoop (hread : ∀ n, m.readActiveSize n = .ok (some (W, H)))
    (hW : 0 ≤ W.toInt) (hH : 0 ≤ H.toInt) (ss : List CString) :
    CropsInside W H (metaLoop m ss) ↔
      EachReached (RoundReads m) (fun _ => RoundFits W H) ss := by
  induction ss with
  | nil => exact iff_of_true ⟨fun f hf => (by cases hf), fun u hu => (by cases hu)⟩ trivial
  | cons s ss ih => rw [cropsInside_cons, EachReached, ih, roundInside_iff (hread _) hW hH]

/-- **Whatever the reads give**, all is well only where there are none. -/
theorem forall_cropsInside_metaLoop (hsize : activeSize m.activeArraySize = some (W, H))
    (ss : List CString) :
    (∀ reads, CropsInside W H (metaLoop (m.reading reads) ss)) ↔
      EachReached (RoundReads m) (fun _ s => ¬ ReadsActiveSize s) ss := by
  induction ss with
  | nil =>
      exact iff_of_true (fun _ => ⟨fun f hf => (by cases hf), fun u hu => (by cases hu)⟩) trivial
  | cons s ss ih =>
      rw [EachReached, ← ih]
      by_cases h : ReadsActiveSize s
      · refine iff_of_false (fun hall => ?_) fun hnot => hnot.1 h
        -- a read that does not return
        have hround := ((cropsInside_cons _ s ss).mp (hall fun _ => none)).1
        rw [metaStep_of_readsActiveSize h (readActiveSize_reading hsize _)] at hround
        exact hround (Or.inr (Or.inr rfl))
      · simp only [h, not_false_eq_true, true_and]
        constructor
        · intro hall hreads reads
          obtain ⟨-, hiff, -⟩ := metaStep_reading (W := W) (H := H) h reads
          exact ((cropsInside_cons _ s ss).mp (hall reads)).2 (hiff.mpr hreads)
        · intro hrest reads
          obtain ⟨hs, hiff, hinside⟩ := metaStep_reading (W := W) (H := H) h reads
          refine (cropsInside_cons _ s ss).mpr ⟨?_, fun hreads => hrest (hiff.mp hreads) reads⟩
          rw [hs]
          exact hinside

/-- **When every crop region is inside the active array**: whatever is read through the destroyed
copy, only if nothing is; where the entry is still there, if the values fit, and then the region of
a positive `zoom` is centred. -/
theorem cropsInside_iff (hsize : activeSize m.activeArraySize = some (W, H))
    (hW : 0 ≤ W.toInt) (hH : 0 ≤ H.toInt) (order : CString) :
    ((∀ reads, CropsInside W H (parseCommandlineMetaUpdate (m.reading reads) order)) ↔
      EachReached (RoundReads m) (fun _ s => ¬ ReadsActiveSize s) (suboptions order)) ∧
      (CropsInside W H (parseCommandlineMetaUpdate (m.reading fun _ => some (W, H)) order) ↔
        EachReached (RoundReads (m.reading fun _ => some (W, H))) (fun _ => RoundFits W H)
          (suboptions order)) ∧
      ∀ n s value z rest, getsubopt metaTokens s = (some .zoom, some value) →
        scanInt value = some (z, rest) → 1 ≤ z.toInt →
        ∃ r : Region, metaStep (m.reading fun _ => some (W, H)) n s = .ok [r.update] ∧
          r.Centred W H z := by
  have hread : ∀ n, (m.reading fun _ => some (W, H)).readActiveSize n = .ok (some (W, H)) :=
    fun n => readActiveSize_reading hsize _
  refine ⟨forall_cropsInside_metaLoop hsize _, cropsInside_metaLoop hread hW hH _, ?_⟩
  intro n s value z rest hs hscan hz
  obtain ⟨r, hr, hcentred⟩ := zoomRegion_centred hW hH hz
  refine ⟨r, ?_, hcentred⟩
  unfold metaStep
  rw [hs]
  simp only [metaOption, zoomOption, hread, intVariable, hscan, Option.map_some, Option.or_none,
    useVariable, bind, Except.bind, hr]
  rfl

/-- A string that writes no region, whatever the copy holds, and one that writes two where the entry
is still there, of which the second one is too wide and refused. -/
theorem cropsInside_two :
    (∀ reads, CropsInside 4000 3000 (parseCommandlineMetaUpdate (wholeSetup.reading reads)
        "numframes=3,manualaemode=1".toList)) ∧
      CropsInside 4000 3000 (parseCommandlineMetaUpdate
        (wholeSetup.reading fun _ => some (4000, 3000)) "zoom=3,cropregion=4000x0x1x1".toList) ∧
      (parseCommandlineMetaUpdate (wholeSetup.reading fun _ => some (4000, 3000))
        "zoom=3,cropregion=4000x0x1x1".toList).1 = [Region.update ⟨1333, 1000, 1333, 1000⟩] := by
  have hsize : activeSize wholeSetup.activeArraySize = some (4000, 3000) := rfl
  refine ⟨(cropsInside_iff hsize (by decide) (by decide) _).1.mpr ?_,
    (cropsInside_iff hsize (by decide) (by decide) _).2.1.mpr ?_, by decide +kernel⟩
  · have hsub : suboptions "numframes=3,manualaemode=1".toList =
        ["numframes=3".toList, "manualaemode=1".toList] := by decide +kernel
    rw [hsub]
    refine ⟨?_, fun _ => ⟨?_, fun _ => trivial⟩⟩
    · have hget : getsubopt metaTokens "numframes=3".toList =
          (some .totalNumFrames, some "3".toList) := by decide +kernel
      simp only [ReadsActiveSize, hget, not_false_eq_true]
    · have hget : getsubopt metaTokens "manualaemode=1".toList =
          (some .manualAeMode, some "1".toList) := by decide +kernel
      simp only [ReadsActiveSize, hget, not_false_eq_true]
  have hsub : suboptions "zoom=3,cropregion=4000x0x1x1".toList =
      ["zoom=3".toList, "cropregion=4000x0x1x1".toList] := by decide +kernel
  rw [hsub]
  refine ⟨?_, fun _ => ⟨?_, fun _ => trivial⟩⟩
  · have hget : getsubopt metaTokens "zoom=3".toList = (some .zoom, some "3".toList) := by
      decide +kernel
    simp only [RoundFits, hget]
    intro z rest hscan
    have hz : scanInt "3".toList = some (3, []) := by decide +kernel
    rw [hz] at hscan
    obtain ⟨rfl, -⟩ := Prod.mk.inj (Option.some.inj hscan)
    exact Or.inl (by decide)
  · have hget : getsubopt metaTokens "cropregion=4000x0x1x1".toList =
        (some .cropRegion, some "4000x0x1x1".toList) := by decide +kernel
    simp only [RoundFits, hget]
    intro x y width height hscan
    have hnumbers : scanMany scanInt 'x' 4 "4000x0x1x1".toList = [4000, 0, 1, 1] := by
      decide +kernel
    rw [hnumbers] at hscan
    cases hscan
    exact Or.inr (by decide)

/-- A read of something else, a read that does not return, and, with the entry still there, a
division by zero, a region of negative size, and a sum that overflows. -/
theorem crops_outside :
    (¬ ∀ order, CropsInside 4000 3000 (parseCommandlineMetaUpdate wholeSetup order)) ∧
      parseCommandlineMetaUpdate (wholeSetup.reading fun _ => some (12000, 3000))
          "zoom=3".toList = ([Region.update ⟨4000, 1000, 4000, 1000⟩], none) ∧
      ¬ CropsInside 4000 3000 (parseCommandlineMetaUpdate
          (wholeSetup.reading fun _ => some (12000, 3000)) "zoom=3".toList) ∧
      parseCommandlineMetaUpdate (wholeSetup.reading fun _ => none) "zoom=3".toList =
        ([], some .useAfterFree) ∧
      parseCommandlineMetaUpdate wholeSetup "zoom=0".toList = ([], some .divisionByZero) ∧
      parseCommandlineMetaUpdate wholeSetup "zoom=-2".toList =
        ([Region.update ⟨3000, 2250, -2000, -1500⟩], none) ∧
      parseCommandlineMetaUpdate wholeSetup "cropregion=2147483647x0x1x0".toList =
        ([], some .signedOverflow) := by
  have hruns : parseCommandlineMetaUpdate (wholeSetup.reading fun _ => some (12000, 3000))
          "zoom=3".toList = ([Region.update ⟨4000, 1000, 4000, 1000⟩], none) ∧
      parseCommandlineMetaUpdate (wholeSetup.reading fun _ => none) "zoom=3".toList =
        ([], some .useAfterFree) ∧
      parseCommandlineMetaUpdate wholeSetup "zoom=0".toList = ([], some .divisionByZero) ∧
      parseCommandlineMetaUpdate wholeSetup "zoom=-2".toList =
        ([Region.update ⟨3000, 2250, -2000, -1500⟩], none) ∧
      parseCommandlineMetaUpdate wholeSetup "cropregion=2147483647x0x1x0".toList =
        ([], some .signedOverflow) := by decide +kernel
  obtain ⟨hother, hgone, hzero, hrest⟩ := hruns
  refine ⟨fun h => ?_, hother, fun h => ?_, hgone, hzero, hrest⟩
  · have hfault := (h "zoom=0".toList).1
    rw [hzero] at hfault
    exact hfault _ rfl (Or.inl rfl)
  · rw [hother] at h
    have hinside := cropInside_update_iff.mp h.2
    exact absurd hinside (by decide)

end QCamx
