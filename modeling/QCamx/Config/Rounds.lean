import QCamx.Config.MetaUpdate

/-!
# One round of `parse_commandline_meta_update`

A round reads its value and converts it, and the two options of a crop region compute with what
they have converted and with the active array as they find it. What can go wrong is settled by the
value and by that read.

* `MetaOpt.Converts`: every variable that the handler uses is set;
* `MetaOpt.Computes`: the read of the active array returns, and the arithmetic is defined;
* `ends_metaOption`: how a handler ends;
* **`ends_metaStep`**: how a round ends;
* `EachReached`: conditions on the suboptions that a loop comes to.
-/

namespace QCamx

open CString

/-- The faults in the computation of a crop region: of its arithmetic, and of the read of the
active array. -/
def MetaFault.OfRegion (f : MetaFault) : Prop :=
  f = .divisionByZero ∨ f = .signedOverflow ∨ f = .useAfterFree

instance (f : MetaFault) : Decidable f.OfRegion := inferInstanceAs (Decidable (_ ∨ _))

/-! ## Arithmetic -/

/-- The operations of `zoom` are defined. -/
def ZoomComputes (activeWidth activeHeight zoom : Int32) : Prop :=
  zoom ≠ 0 ∧ FitsInt (activeWidth.toInt.tdiv zoom.toInt) ∧
    FitsInt (activeHeight.toInt.tdiv zoom.toInt) ∧
    FitsInt (activeWidth.toInt - activeWidth.toInt.tdiv zoom.toInt) ∧
    FitsInt (activeHeight.toInt - activeHeight.toInt.tdiv zoom.toInt)

/-- The operations of `cropregion` are defined: the second sum is made only where the first one is
in range. -/
def CropComputes (activeWidth : Int32) (r : Region) : Prop :=
  (r.x < 0 ∨ r.y < 0 ∨ r.width < 0 ∨ r.height < 0) ∨
    FitsInt (r.x.toInt + r.width.toInt) ∧
      (r.x.toInt + r.width.toInt ≤ activeWidth.toInt → FitsInt (r.y.toInt + r.height.toInt))

theorem divideInt_of_fits {a b : Int32} (hb : b ≠ 0) (h : FitsInt (a.toInt.tdiv b.toInt)) :
    ∃ q : Int32, divideInt a b = .ok q ∧ q.toInt = a.toInt.tdiv b.toInt := by
  unfold divideInt
  rw [if_neg hb]
  exact checkedInt_of_fits h

theorem divideInt_of_not_fits {a b : Int32} (hb : b ≠ 0) (h : ¬ FitsInt (a.toInt.tdiv b.toInt)) :
    divideInt a b = .error .signedOverflow := by
  unfold divideInt
  rw [if_neg hb]
  exact checkedInt_of_not_fits h

theorem divideInt_two (a : Int32) : ∃ q, divideInt a 2 = .ok q ∧ q.toInt = a.toInt.tdiv 2 := by
  have hfits : FitsInt (a.toInt.tdiv (2 : Int32).toInt) := by
    have hlo := a.le_toInt
    have hhi := a.toInt_lt
    have hhalf : (a.toInt.tdiv 2).natAbs = a.toInt.natAbs / 2 := Int.natAbs_tdiv a.toInt 2
    have htwo : (2 : Int32).toInt = 2 := rfl
    rw [htwo]
    unfold FitsInt
    omega
  exact divideInt_of_fits (by decide) hfits

/-- **The region of `zoom`.** -/
theorem zoomRegion_of_computes {W H z : Int32} (h : ZoomComputes W H z) :
    ∃ r, zoomRegion W H z = .ok r ∧ r.width.toInt = W.toInt.tdiv z.toInt ∧
      r.height.toInt = H.toInt.tdiv z.toInt ∧
      r.x.toInt = (W.toInt - W.toInt.tdiv z.toInt).tdiv 2 ∧
      r.y.toInt = (H.toInt - H.toInt.tdiv z.toInt).tdiv 2 := by
  obtain ⟨hz, hw, hh, hmw, hmh⟩ := h
  obtain ⟨w, hw, hwv⟩ := divideInt_of_fits hz hw
  obtain ⟨h, hh, hhv⟩ := divideInt_of_fits hz hh
  rw [← hwv] at hmw
  rw [← hhv] at hmh
  obtain ⟨mw, hmw, hmwv⟩ := checkedInt_of_fits hmw
  obtain ⟨mh, hmh, hmhv⟩ := checkedInt_of_fits hmh
  obtain ⟨x, hx, hxv⟩ := divideInt_two mw
  obtain ⟨y, hy, hyv⟩ := divideInt_two mh
  refine ⟨⟨x, y, w, h⟩, ?_, hwv, hhv, ?_, ?_⟩
  · unfold zoomRegion
    rw [hw, hh]
    simp only [bind, Except.bind, hmw, hmh, hx, hy]
    rfl
  · rw [hxv, hmwv, hwv]
  · rw [hyv, hmhv, hhv]

theorem zoomRegion_of_not_computes {W H z : Int32} (h : ¬ ZoomComputes W H z) :
    ∃ f, zoomRegion W H z = .error f ∧ f.OfRegion := by
  unfold zoomRegion
  by_cases hz : z = 0
  · refine ⟨.divisionByZero, ?_, Or.inl rfl⟩
    unfold divideInt
    rw [if_pos hz]
    rfl
  refine ⟨.signedOverflow, ?_, Or.inr (Or.inl rfl)⟩
  by_cases hw : FitsInt (W.toInt.tdiv z.toInt)
  · obtain ⟨w, hwok, hwv⟩ := divideInt_of_fits hz hw
    rw [hwok]
    by_cases hh : FitsInt (H.toInt.tdiv z.toInt)
    · obtain ⟨q, hqok, hqv⟩ := divideInt_of_fits hz hh
      simp only [hqok, bind, Except.bind]
      rw [hwv, hqv]
      by_cases hmw : FitsInt (W.toInt - W.toInt.tdiv z.toInt)
      · have hmh : ¬ FitsInt (H.toInt - H.toInt.tdiv z.toInt) := fun hmh =>
          h ⟨hz, hw, hh, hmw, hmh⟩
        obtain ⟨mw, hmwok, -⟩ := checkedInt_of_fits hmw
        obtain ⟨x, hx, -⟩ := divideInt_two mw
        simp only [hmwok, hx, checkedInt_of_not_fits hmh]
      · rw [checkedInt_of_not_fits hmw]
    · rw [divideInt_of_not_fits hz hh]
      rfl
  · rw [divideInt_of_not_fits hz hw]
    rfl

/-- A region inside an active array. -/
def Region.Inside (r : Region) (activeWidth activeHeight : Int32) : Prop :=
  0 ≤ r.x.toInt ∧ 0 ≤ r.y.toInt ∧ 0 ≤ r.width.toInt ∧ 0 ≤ r.height.toInt ∧
    r.x.toInt + r.width.toInt ≤ activeWidth.toInt ∧
    r.y.toInt + r.height.toInt ≤ activeHeight.toInt

instance (r : Region) (W H : Int32) : Decidable (r.Inside W H) := by
  unfold Region.Inside
  infer_instance

theorem nonneg_of_not_lt {n : Int32} (h : ¬ n < 0) : 0 ≤ n.toInt := by
  rw [Int32.lt_iff_toInt_lt] at h
  exact not_lt.mp h

/-- **`cropregion` takes the regions inside the active array.** -/
theorem cropRegion_of_computes {W : Int32} (H : Int32) {r : Region} (h : CropComputes W r) :
    cropRegion W H r = .ok (if r.Inside W H then some r else none) := by
  unfold cropRegion
  split_ifs with hneg hin hin
  · -- a negative number, though the region is inside
    exfalso
    obtain ⟨hx, hy, hw, hh, -⟩ := hin
    simp only [Int32.lt_iff_toInt_lt, Int32.toInt_zero] at hneg
    omega
  · rfl
  · obtain ⟨hright, hbottom⟩ := h.resolve_left hneg
    obtain ⟨-, -, -, -, hW, hH⟩ := hin
    obtain ⟨right, hok, hright⟩ := checkedInt_of_fits hright
    obtain ⟨bottom, hok', hbottom⟩ := checkedInt_of_fits (hbottom hW)
    have hW' : ¬ W < right := by rw [Int32.lt_iff_toInt_lt]; omega
    have hH' : ¬ H < bottom := by rw [Int32.lt_iff_toInt_lt]; omega
    simp only [hok, hok', bind, Except.bind, if_neg hW', if_neg hH']
    rfl
  · obtain ⟨hright, hbottom⟩ := h.resolve_left hneg
    simp only [not_or] at hneg
    obtain ⟨hx, hy, hw, hh⟩ := hneg
    have hx := nonneg_of_not_lt hx
    have hy := nonneg_of_not_lt hy
    have hw := nonneg_of_not_lt hw
    have hh := nonneg_of_not_lt hh
    obtain ⟨right, hok, hright⟩ := checkedInt_of_fits hright
    by_cases hW : r.x.toInt + r.width.toInt ≤ W.toInt
    · obtain ⟨bottom, hok', hbottom⟩ := checkedInt_of_fits (hbottom hW)
      have hW' : ¬ W < right := by rw [Int32.lt_iff_toInt_lt]; omega
      have hH' : H < bottom := by
        rw [Int32.lt_iff_toInt_lt, hbottom]
        by_contra hH
        exact hin ⟨hx, hy, hw, hh, hW, by omega⟩
      simp only [hok, hok', bind, Except.bind, if_neg hW', if_pos hH']
      rfl
    · have hW' : W < right := by rw [Int32.lt_iff_toInt_lt]; omega
      simp only [hok, bind, Except.bind, if_pos hW']
      rfl

theorem cropRegion_of_not_computes {W : Int32} (H : Int32) {r : Region} (h : ¬ CropComputes W r) :
    cropRegion W H r = .error .signedOverflow := by
  unfold cropRegion
  rw [if_neg fun hneg => h (Or.inl hneg)]
  by_cases hright : FitsInt (r.x.toInt + r.width.toInt)
  · have hrest : r.x.toInt + r.width.toInt ≤ W.toInt ∧ ¬ FitsInt (r.y.toInt + r.height.toInt) := by
      by_contra hnot
      exact h (Or.inr ⟨hright, fun hW => by_contra fun hfits => hnot ⟨hW, hfits⟩⟩)
    obtain ⟨right, hok, hright⟩ := checkedInt_of_fits hright
    have hW : ¬ W < right := by rw [Int32.lt_iff_toInt_lt]; omega
    simp only [hok, checkedInt_of_not_fits hrest.2, bind, Except.bind, if_neg hW]
  · rw [checkedInt_of_not_fits hright]
    rfl

/-! ## Handlers -/

variable {F : Type} {m : MetaSetup F}

/-- The handler uses only variables that the value sets or that have an initial value. -/
def MetaOpt.Converts (m : MetaSetup F) (n : ℕ) (opt : MetaOpt) (value : CString) : Prop :=
  match opt with
  | .manualExposure => m.scanFloat value ≠ none
  | .manualIso | .manualWbMode | .manualWbCct => scanInt value ≠ none
  | .antbanding | .manualAwbMode | .manualAfMode | .manualAeAntibandingMode
  | .manualColorCorrectionMode | .manualControlMode | .manualZslMode => value ≠ []
  | .manualWbGains => (scanMany m.scanFloat '-' 3 value).length = 3
  | .zoom => ∀ size, m.readActiveSize n = .ok (some size) → scanInt value ≠ none
  | .cropRegion =>
      ∀ size, m.readActiveSize n = .ok (some size) → (scanMany scanInt 'x' 4 value).length = 4
  | _ => True

/-- The handler computes with numbers for which its operations are defined. -/
def MetaOpt.Computes (m : MetaSetup F) (n : ℕ) (opt : MetaOpt) (value : CString) : Prop :=
  match opt with
  | .zoom => m.readActiveSize n ≠ .error .useAfterFree ∧
      ∀ W H, m.readActiveSize n = .ok (some (W, H)) →
        ∀ z rest, scanInt value = some (z, rest) → ZoomComputes W H z
  | .cropRegion => m.readActiveSize n ≠ .error .useAfterFree ∧
      ∀ W H, m.readActiveSize n = .ok (some (W, H)) →
        ∀ x y width height, scanMany scanInt 'x' 4 value = [x, y, width, height] →
          CropComputes W ⟨x, y, width, height⟩
  | _ => True

/-- How a handler or a round ends, for a condition on its conversions and one on what it
computes. -/
def Ends {α : Type} (converts computes : Prop) (r : Except MetaFault α) : Prop :=
  (converts ∧ computes ∧ ∃ a, r = .ok a) ∨
    (converts ∧ ¬ computes ∧ ∃ f, r = .error f ∧ f.OfRegion) ∨
    (¬ converts ∧ ∃ f, r = .error f ∧ (f = .nullValue ∨ f = .uninitialized))

theorem ends_useVariable {α β : Type} {v : Option α} {f : α → β} {converts computes : Prop}
    (hv : v ≠ none ↔ converts) (hcomputes : computes) :
    Ends converts computes ((useVariable v).map f) := by
  cases v with
  | none => exact Or.inr (Or.inr ⟨fun h => hv.mpr h rfl, .uninitialized, rfl, Or.inr rfl⟩)
  | some a => exact Or.inl ⟨hv.mp (by simp), hcomputes, f a, rfl⟩

theorem eq_useAfterFree {n : ℕ} {f : MetaFault} (h : m.readActiveSize n = .error f) :
    f = .useAfterFree := by
  unfold MetaSetup.readActiveSize at h
  split at h
  · cases h
  · split at h
    · exact (Except.error.inj h).symm
    · cases h

theorem ends_zoomOption (n : ℕ) (value : CString) :
    Ends (MetaOpt.zoom.Converts m n value) (MetaOpt.zoom.Computes m n value)
      (zoomOption m n value) := by
  unfold zoomOption MetaOpt.Converts MetaOpt.Computes
  cases hread : m.readActiveSize n with
  | error f =>
      obtain rfl := eq_useAfterFree hread
      exact Or.inr (Or.inl ⟨fun _ h => (by cases h), fun h => h.1 rfl, _, rfl, Or.inr (Or.inr rfl)⟩)
  | ok read =>
      cases read with
      | none =>
          exact Or.inl ⟨fun _ h => (by cases h), ⟨by simp, fun _ _ h => (by cases h)⟩, [], rfl⟩
      | some size =>
          obtain ⟨W, H⟩ := size
          cases hscan : scanInt value with
          | none =>
              refine Or.inr (Or.inr ⟨fun h => h (W, H) rfl rfl, .uninitialized, ?_, Or.inr rfl⟩)
              simp only [intVariable, hscan]
              rfl
          | some p =>
              obtain ⟨z, rest⟩ := p
              simp only [intVariable, hscan, Option.map_some, Option.or_none, useVariable, bind,
                Except.bind]
              by_cases h : ZoomComputes W H z
              · obtain ⟨r, hr, -⟩ := zoomRegion_of_computes h
                refine Or.inl ⟨fun _ _ => by simp, ⟨by simp, ?_⟩, [r.update], ?_⟩
                · rintro _ _ ⟨⟩ _ _ ⟨⟩
                  exact h
                · rw [hr]
                  rfl
              · obtain ⟨f, hf, hregion⟩ := zoomRegion_of_not_computes h
                refine Or.inr (Or.inl ⟨fun _ _ => by simp,
                  fun hall => h (hall.2 W H rfl z rest rfl), f, ?_, hregion⟩)
                rw [hf]

theorem ends_cropRegionOption (n : ℕ) (value : CString) :
    Ends (MetaOpt.cropRegion.Converts m n value) (MetaOpt.cropRegion.Computes m n value)
      (cropRegionOption m n value) := by
  unfold cropRegionOption MetaOpt.Converts MetaOpt.Computes
  cases hread : m.readActiveSize n with
  | error f =>
      obtain rfl := eq_useAfterFree hread
      exact Or.inr (Or.inl ⟨fun _ h => (by cases h), fun h => h.1 rfl, _, rfl, Or.inr (Or.inr rfl)⟩)
  | ok read =>
      cases read with
      | none =>
          exact Or.inl ⟨fun _ h => (by cases h), ⟨by simp, fun _ _ h => (by cases h)⟩, [], rfl⟩
      | some size =>
          obtain ⟨W, H⟩ := size
          dsimp only
          split
          case h_1 x y width height hscan =>
            rw [hscan]
            by_cases h : CropComputes W ⟨x, y, width, height⟩
            · refine Or.inl ⟨fun _ _ => rfl, ⟨by simp, ?_⟩, _,
                by rw [cropRegion_of_computes H h]; rfl⟩
              rintro _ _ ⟨⟩ _ _ _ _ ⟨⟩
              exact h
            · refine Or.inr (Or.inl ⟨fun _ _ => rfl,
                fun hall => h (hall.2 W H rfl x y width height rfl), .signedOverflow, ?_,
                Or.inr (Or.inl rfl)⟩)
              rw [cropRegion_of_not_computes H h]
              rfl
          case h_2 hscan =>
            refine Or.inr (Or.inr ⟨fun h => ?_, .uninitialized, rfl, Or.inr rfl⟩)
            obtain ⟨x, y, width, height, hlist⟩ := List.length_eq_four.mp (h (W, H) rfl)
            exact hscan x y width height hlist

theorem or_ne_none_iff {α : Type} (v : Option α) : v.or none ≠ none ↔ v ≠ none := by
  rw [Option.or_none]

theorem or_some_ne_none {α : Type} (v : Option α) (a : α) : v.or (some a) ≠ none ↔ True := by
  cases v <;> simp

/-- **How a handler ends.** -/
theorem ends_metaOption (m : MetaSetup F) (n : ℕ) (opt : MetaOpt) (value : CString) :
    Ends (opt.Converts m n value) (opt.Computes m n value) (metaOption m n opt value) := by
  cases opt with
  | zoom => exact ends_zoomOption n value
  | cropRegion => exact ends_cropRegionOption n value
  | manualExposure =>
      refine ends_useVariable ?_ trivial
      rw [ne_eq, Option.map_eq_none_iff]
      rfl
  | manualIso | manualWbMode | manualWbCct =>
      refine ends_useVariable ?_ trivial
      rw [or_ne_none_iff, ne_eq, Option.map_eq_none_iff]
      rfl
  | antbanding | manualAwbMode | manualAfMode | manualAeAntibandingMode
  | manualColorCorrectionMode | manualControlMode | manualZslMode =>
      refine ends_useVariable ?_ trivial
      rw [or_ne_none_iff, scanChar, ne_eq, Option.map_eq_none_iff, List.head?_eq_none_iff]
      rfl
  | manualAeMode | jpegQuality | manualSensitivity | totalNumFrames | exposureMetering
  | selectPriority | manualExposureComp =>
      exact ends_useVariable (or_some_ne_none _ _) trivial
  | expPriority | compensationRatio => exact Or.inl ⟨trivial, trivial, _, rfl⟩
  | manualWbGains =>
      simp only [metaOption, gainsOption]
      split_ifs with hlen
      · exact Or.inl ⟨hlen, trivial, _, rfl⟩
      · exact Or.inr (Or.inr ⟨hlen, .uninitialized, rfl, Or.inr rfl⟩)

/-! ## Rounds -/

/-- The handler of a suboption reads a value that is there, and converts what it uses. -/
def RoundReads (m : MetaSetup F) (n : ℕ) (s : CString) : Prop :=
  match getsubopt metaTokens s with
  | (none, _) => True
  | (some _, none) => False
  | (some opt, some value) => opt.Converts m n value

/-- The handler of a suboption reads what is there, and computes only what is defined. -/
def RoundComputes (m : MetaSetup F) (n : ℕ) (s : CString) : Prop :=
  match getsubopt metaTokens s with
  | (some opt, some value) => opt.Computes m n value
  | _ => True

/-- **How a round ends.** -/
theorem ends_metaStep (m : MetaSetup F) (n : ℕ) (s : CString) :
    Ends (RoundReads m n s) (RoundComputes m n s) (metaStep m n s) := by
  unfold RoundReads RoundComputes metaStep
  generalize getsubopt metaTokens s = p
  obtain ⟨_ | opt, _ | value⟩ := p
  · exact Or.inl ⟨trivial, trivial, [], rfl⟩
  · exact Or.inl ⟨trivial, trivial, [], rfl⟩
  · exact Or.inr (Or.inr ⟨id, .nullValue, rfl, Or.inl rfl⟩)
  · exact ends_metaOption m n opt value

/-- A condition on every suboption that a loop reaches, when it goes on past the suboptions that
meet another one; both may depend on how many are behind it. -/
def EachReached (goesOn P : ℕ → CString → Prop) : List CString → Prop
  | [] => True
  | s :: ss => P ss.length s ∧ (goesOn ss.length s → EachReached goesOn P ss)

end QCamx
